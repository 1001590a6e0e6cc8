import ComplianceHub.Duty.Day

/-!
# The duty logs of one day

* `Logged` : one log for each coverage and technician, and for each meeting and reliever;
* `Onward` : what the operations of a day keep, from the tables of an earlier moment: the places of the coverages, the
  logs, and the coverages that are completed;
* `Onward.recordCompletedCoverage`, `Onward.recordReliever`, `Onward.saveCoverage`, `Onward.ends`, `Onward.reconcile` :
  one lemma for each write.
-/

namespace ComplianceHub.Duty

open ComplianceHub.Lib

variable {s : Services} {db db' x : DutyDb} {plan : CoveragePlan} {coverage saved row : DutyDailyCoverage} {day : Int}

/-- The logs of a technician for a coverage. -/
def coverageLogs (db : DutyDb) (coverageId userId : Nat) : List DutyAssignment :=
  db.assignments.filter fun row => row.coverageId = some coverageId && row.userId = userId

/-- The logs of a technician for a meeting. -/
def meetingLogs (db : DutyDb) (reservationId userId : Nat) : List DutyAssignment :=
  db.assignments.filter fun row => row.reservationId = some reservationId && row.userId = userId

structure Logged (db : DutyDb) : Prop where
  coverage : ∀ coverageId userId, (coverageLogs db coverageId userId).length ≤ 1
  reliever : ∀ reliever ∈ db.relievers, (meetingLogs db reliever.reservationId reliever.userId).length ≤ 1

/-- The technician of a coverage is no reliever of its meeting. -/
def IsApart (db : DutyDb) (coverage : DutyDailyCoverage) : Prop :=
  ∀ reliever ∈ db.relievers, coverage.reservationId = some reliever.reservationId →
    coverage.assignedUserId ≠ some reliever.userId

/-- What the operations of a day keep. -/
structure Onward (day : Int) (db db' : DutyDb) : Prop where
  places : Day day db'
  logged : Logged db'
  relievers : db'.relievers = db.relievers
  grows : db.assignments <+: db'.assignments
  /-- A coverage of the day that is completed. -/
  rests : ∀ row ∈ db.coverages, row.dutyDate = day → row.status = .completed → row ∈ db'.coverages

theorem Onward.refl (hday : Day day db) (hlogged : Logged db) : Onward day db db :=
  ⟨hday, hlogged, rfl, List.prefix_rfl, fun _ h _ _ => h⟩

theorem Onward.trans {db'' : DutyDb} (h : Onward day db db') (h' : Onward day db' db'') : Onward day db db'' where
  places := h'.places
  logged := h'.logged
  relievers := h'.relievers.trans h.relievers
  grows := h.grows.trans h'.grows
  rests row hrow hdate hcompleted := h'.rests row (h.rests row hrow hdate hcompleted) hdate hcompleted

/-! ## Writes that add no log -/

theorem Logged.of_eq (h : Logged db) (hlogs : db'.assignments = db.assignments) (hrelievers : db'.relievers = db.relievers) :
    Logged db' where
  coverage coverageId userId := by
    unfold coverageLogs
    rw [hlogs]
    exact h.coverage coverageId userId
  reliever reliever hmem := by
    unfold meetingLogs
    rw [hlogs]
    rw [hrelievers] at hmem
    exact h.reliever reliever hmem

/-- The logs and the relievers are as they were, and a coverage that is completed stays. -/
theorem Onward.unlogged (h : Onward day db x) (hday : Day day db') (hlogs : db'.assignments = x.assignments)
    (hrelievers : db'.relievers = x.relievers)
    (hrests : ∀ row ∈ x.coverages, row.dutyDate = day → row.status = .completed → row ∈ db'.coverages) : Onward day db db' := by
  refine h.trans ⟨hday, h.logged.of_eq hlogs hrelievers, hrelievers, ?_, hrests⟩
  simp only [hlogs, List.prefix_rfl]

theorem Onward.attend (h : Onward day db x) (hsane : Sane db') (heq : ∃ attendance, db' = { x with attendance }) :
    Onward day db db' := by
  obtain ⟨attendance, rfl⟩ := heq
  exact h.unlogged (h.places.progress hsane (progress_of_eq rfl) rfl rfl) rfl rfl fun _ hrow _ _ => hrow

theorem Sane.restoreAttendance (hdb : Sane db) (coverage : DutyDailyCoverage) : Sane (restoreAttendance coverage db) :=
  ⟨hdb.keyed.restoreAttendance coverage, hdb.regular.of_eq (restoreAttendance_coverages coverage db)⟩

theorem Onward.restoreAttendance (h : Onward day db x) (coverage : DutyDailyCoverage) :
    Onward day db (restoreAttendance coverage x) :=
  h.attend (h.places.sane.restoreAttendance coverage) (restoreAttendance_eq coverage x)

theorem completed_of_saveCoverage (hdb : Keyed db) (hmem : coverage ∈ db.coverages) (hid : saved.id = coverage.id)
    (hstatus : coverage.status ≠ .completed) (hrow : row ∈ db.coverages) (hcompleted : row.status = .completed) :
    row ∈ (db.saveCoverage saved).coverages := by
  refine saveCoverage_keeps hrow fun hsame => hstatus ?_
  rw [← hdb.eq_coverage hrow hmem (hsame.trans hid)]
  exact hcompleted

theorem Onward.saveCoverage (h : Onward day db x) (hmem : coverage ∈ x.coverages) (hsaved : Replaces saved coverage)
    (hmeeting : saved.reservationId = coverage.reservationId) (hstatus : saved.status ≠ .completed)
    (hopen : coverage.status ≠ .completed) : Onward day db (x.saveCoverage saved) :=
  h.unlogged (h.places.saveCoverage hmem hsaved hmeeting hstatus) rfl rfl fun _ hrow _ hcompleted =>
    completed_of_saveCoverage h.places.sane.keyed hmem hsaved.id hopen hrow hcompleted

theorem completeMeeting_assignments (reservationId : Option Nat) (db : DutyDb) :
    (completeMeeting reservationId db).assignments = db.assignments := by
  unfold completeMeeting
  split <;> rfl

theorem Onward.ends (h : Onward day db x) (hmem : coverage ∈ x.coverages) (hsaved : Replaces saved coverage)
    (hmeeting : saved.reservationId = coverage.reservationId) (hopen : coverage.status ≠ .completed) :
    Onward day db (completeMeeting coverage.reservationId (x.saveCoverage saved)) := by
  refine h.unlogged (h.places.ends hmem hsaved hmeeting) (completeMeeting_assignments _ _) (completeMeeting_relievers _ _) ?_
  intro row hrow _ hcompleted
  rw [completeMeeting_coverages]
  exact completed_of_saveCoverage h.places.sane.keyed hmem hsaved.id hopen hrow hcompleted

theorem Onward.completes (h : Onward day db x) {meeting : DutyMeetingReservation} (hmem : meeting ∈ x.reservations)
    (hkept : meeting.status ≠ .cancelled) : Onward day db (x.saveReservation { meeting with status := .completed }) := by
  refine h.unlogged ?_ rfl rfl fun _ hrow _ _ => hrow
  exact h.places.progress (h.places.sane.saveReservation _) (progress_completed h.places.sane.keyed hmem hkept) rfl rfl

/-! ## Logs -/

/-- One log more, which there was not. -/
theorem length_filter_append_le {p : DutyAssignment → Bool} {logs : List DutyAssignment} {log : DutyAssignment}
    (h : (logs.filter p).length ≤ 1) (hnew : p log = true → ∀ row ∈ logs, p row = false) :
    ((logs ++ [log]).filter p).length ≤ 1 := by
  rw [List.filter_append, List.length_append]
  by_cases hp : p log = true
  · have hnone : logs.filter p = [] := List.filter_eq_nil_iff.mpr fun row hrow => by
      rw [hnew hp row hrow]
      exact Bool.false_ne_true
    rw [hnone, List.filter_cons_of_pos hp]
    exact le_rfl
  · rw [List.filter_cons_of_neg hp]
    exact h

theorem Onward.logs (h : Onward day db x) {log : DutyAssignment}
    (hcoverage : ∀ coverageId userId, log.coverageId = some coverageId → log.userId = userId →
      ∀ row ∈ x.assignments, row.coverageId = some coverageId → row.userId ≠ userId)
    (hreliever : ∀ reliever ∈ x.relievers, log.reservationId = some reliever.reservationId →
      log.userId = reliever.userId → ∀ row ∈ x.assignments, row.reservationId = some reliever.reservationId →
      row.userId ≠ reliever.userId) : Onward day db { x with assignments := x.assignments ++ [log] } := by
  have hsane : Sane { x with assignments := x.assignments ++ [log] } :=
    ⟨h.places.sane.keyed.write (.logs _ x.exceptions x.nextId le_rfl), h.places.sane.regular⟩
  refine h.trans ⟨h.places.progress hsane (progress_of_eq rfl) rfl rfl, ⟨fun coverageId userId => ?_, fun reliever hmem => ?_⟩,
    rfl, List.prefix_append _ _, fun _ hrow _ _ => hrow⟩
  · refine length_filter_append_le (h.logged.coverage coverageId userId) fun hlog row hrow => ?_
    simp only [Bool.and_eq_true, decide_eq_true_eq] at hlog
    have hother := hcoverage coverageId userId hlog.1 hlog.2 row hrow
    simpa using hother
  · refine length_filter_append_le (h.logged.reliever reliever hmem) fun hlog row hrow => ?_
    simp only [Bool.and_eq_true, decide_eq_true_eq] at hlog
    have hother := hreliever reliever hmem hlog.1 hlog.2 row hrow
    simpa using hother

theorem Onward.recordCompletedCoverage (h : Onward day db x) (hapart : IsApart x coverage) :
    Onward day db (recordCompletedCoverage coverage x) := by
  unfold Duty.recordCompletedCoverage
  split
  · exact h
  · rename_i userId huser
    split_ifs with hrecorded
    · exact h
    · refine h.logs (fun coverageId other hid hother row hrow hrowId hrowUser => hrecorded ?_)
        fun reliever hmem hmeeting hother => absurd (huser.trans (congrArg some hother)) (hapart reliever hmem hmeeting)
      cases hid
      cases hother
      refine List.any_eq_true.mpr ⟨row, hrow, ?_⟩
      rw [hrowId, hrowUser]
      simp

theorem Onward.recordReliever (h : Onward day db x) (reservation : DutyMeetingReservation) (createdById : Nat)
    (remarks : String) (reliever : DutyMeetingReliever) :
    Onward day db (recordReliever reservation createdById remarks reliever x) := by
  unfold Duty.recordReliever
  split_ifs with hrecorded
  · exact h
  · refine h.logs (fun coverageId other hid => by cases hid) fun other _ hmeeting hsame row hrow hrowMeeting hrowUser =>
      hrecorded ?_
    refine List.any_eq_true.mpr ⟨row, hrow, ?_⟩
    rw [hrowMeeting, hrowUser, ← hmeeting, ← hsame]
    simp

theorem Onward.foldl {α : Type} {f : DutyDb → α → DutyDb} (hf : ∀ x item, Onward day db x → Onward day db (f x item))
    (items : List α) (h : Onward day db x) : Onward day db (items.foldl f x) := by
  induction items generalizing x with
  | nil => exact h
  | cons item rest ih => exact ih (hf x item h)

/-- A coverage of the day is apart from the relievers. -/
theorem Day.isApart (h : Day day db) (hmem : coverage ∈ db.coverages) (hdate : coverage.dutyDate = day) :
    IsApart db coverage := by
  intro reliever hreliever hmeeting
  by_cases hod : coverage.dutyType = .OD
  · rw [((h.sane.regular coverage hmem).od hod).1] at hmeeting
    cases hmeeting
  · obtain ⟨meeting, -, hplaced⟩ := h.placed coverage hmem hdate hod
    have hid : reliever.reservationId = meeting.id := Option.some.inj (hmeeting.symm.trans hplaced.named)
    have hrelieves : reliever ∈ db.relieversOf meeting.id := List.mem_filter.mpr ⟨hreliever, decide_eq_true hid⟩
    rw [hplaced.unrelieved] at hrelieves
    cases hrelieves

/-! ## The log that there is -/

theorem logged_once (h : Logged db') (hgrows : db.assignments <+: db'.assignments) {coverageId userId : Nat}
    (hlog : 1 ≤ (coverageLogs db coverageId userId).length) : (coverageLogs db' coverageId userId).length = 1 := by
  have hle := (hgrows.sublist.filter fun row : DutyAssignment => row.coverageId = some coverageId && row.userId = userId).length_le
  have hone := h.coverage coverageId userId
  unfold coverageLogs at hlog hone ⊢
  omega

theorem length_recordCompletedCoverage {userId : Nat} (huser : coverage.assignedUserId = some userId) :
    1 ≤ (coverageLogs (recordCompletedCoverage coverage db) coverage.id userId).length := by
  refine List.length_pos_iff_exists_mem.mpr ?_
  unfold recordCompletedCoverage coverageLogs
  rw [huser]
  dsimp only
  split_ifs with hrecorded
  · obtain ⟨row, hrow, hsame⟩ := List.any_eq_true.mp hrecorded
    exact ⟨row, List.mem_filter.mpr ⟨hrow, hsame⟩⟩
  · refine ⟨_, List.mem_filter.mpr ⟨List.mem_append_right _ (List.mem_singleton_self _), ?_⟩⟩
    simp

/-! ## Turns -/

section
variable {date : Int} {type : DutyType} {requestedPeriod : Option DutyPeriod}

/-- A turn, where it does not meet a coverage of the day that is completed. -/
theorem Onward.reconcile (h : Onward day db x) (excludedUserIds : List Nat)
    (hfree : ∀ plan, coveragePlan x date type requestedPeriod = some plan → ∀ row ∈ x.coverages, row.dutyDate = day →
      row.status = .completed → row.key ≠ plan.key) :
    Onward day db (leaves (reconcileCoverage s date type excludedUserIds requestedPeriod) x) := by
  cases hplan : coveragePlan x date type requestedPeriod with
  | none =>
    rw [leaves_unplanned hplan]
    exact h
  | some plan =>
    have hwrites : Writes x (leaves (reconcileCoverage s date type excludedUserIds requestedPeriod) x) :=
      (keeps_reconcileCoverage (writes_closed x) date type excludedUserIds requestedPeriod).leaves .refl
    obtain ⟨hsane, hbeside⟩ := h.places.sane.writes hwrites
    have hlogs : SameLogs x (leaves (reconcileCoverage s date type excludedUserIds requestedPeriod) x) :=
      keeps_logs_reconcileCoverage.leaves ⟨rfl, rfl⟩
    have hturn := turn_reconcileCoverage (s := s) hplan excludedUserIds
    refine h.unlogged (h.places.turn hplan hturn hsane hbeside) hlogs.assignments hbeside.relievers ?_
    exact fun row hrow hdate hcompleted =>
      hturn.others h.places.sane.keyed hrow (hfree plan hplan row hrow hdate hcompleted)

/-- The turn of a venue meets no coverage of the day that is completed. -/
theorem Onward.reconcileVenue (h : Onward day db x) (hvenue : type ≠ .OD) (excludedUserIds : List Nat) :
    Onward day db (leaves (reconcileCoverage s date type excludedUserIds requestedPeriod) x) := by
  refine h.reconcile excludedUserIds fun plan hplan row hrow hdate hcompleted hkey => ?_
  refine h.places.unplanned hplan hrow hdate hcompleted (fun hod => hvenue ?_) hkey
  rw [← (coveragePlan_eq_some hplan).2, ← type_of_key hkey]
  exact hod

theorem leaves_reconcileDuty : leaves (reconcileDuty s date type requestedPeriod) db =
    leaves (reconcileCoverage s date type [] requestedPeriod) db := by
  show leaves (EStateM.bind (reconcileCoverage s date type [] requestedPeriod) fun _ => pure ()) db = _
  unfold leaves EStateM.bind
  cases reconcileCoverage s date type [] requestedPeriod db with
  | ok a s' => rfl
  | error e s' => rfl

theorem keeps_onward_venue (hvenue : type ≠ .OD) : Keeps (Onward day db) (reconcileDuty s date type requestedPeriod) := by
  refine triple_of_leaves fun x h => ?_
  rw [leaves_reconcileDuty]
  exact h.reconcileVenue hvenue []

theorem keeps_onward_reconcileNext (hvenue : type ≠ .OD) : Keeps (Onward day db) (reconcileNext s date type) := by
  refine triple_bind (Q := fun _ => Onward day db) (triple_reads (fun _ _ h _ => h) fun _ h => h) fun next => ?_
  cases next with
  | none => exact triple_pure fun _ h => h
  | some next => exact keeps_onward_venue hvenue

end

end ComplianceHub.Duty
