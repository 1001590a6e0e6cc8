import ComplianceHub.Duty.LiveMeeting
import ComplianceHub.Duty.OwnRow
import ComplianceHub.Duty.Rows

/-!
# A release that is rejected

* `LeftAlone` : the coverages, the attendance, the meetings and the logs are as they were;
* `releaseOd_raises` : an OD without a replacement is put back, and only its attendance may differ;
* `over_of_releaseVenue` : the coverage of a venue is over before the next meeting is looked at;
* `rejected_release_leaves_the_state` : a release that raises leaves the tables alone exactly where it does not pass the
  checks, or the OD's attendance is as its activation wrote it;
* `released_without_a_roster` : a meeting duty is finished by a release that is rejected.
-/

namespace ComplianceHub.Duty

open ComplianceHub.Lib

structure LeftAlone (db db' : DutyDb) : Prop where
  coverages : db'.coverages = db.coverages
  attendance : db'.attendance = db.attendance
  reservations : db'.reservations = db.reservations
  assignments : db'.assignments = db.assignments

/-- A release that passes the checks is of an OD, whose technician's attendance is as the activation wrote it. -/
def IsUndone (s : Services) (db : DutyDb) (actor : Actor) (id : Nat) : Prop :=
  ∀ coverage, releasable s db actor id = .ok coverage → coverage.dutyType = .OD ∧
    ∀ attendance ∈ db.attendance, coverage.assignedUserId = some attendance.userId →
      attendance.date = coverage.dutyDate → attendance = onDuty coverage.dutyType attendance

variable {s : Services} {db db' : DutyDb} {actor : Actor} {id : Nat} {coverage : DutyDailyCoverage}

/-! ## An OD -/

def odPlan (date : Int) : CoveragePlan where
  date := date
  type := .OD
  period := .WHOLE_DAY

theorem coverageOf_of_key (hdb : Keyed db) (hmem : coverage ∈ db.coverages) {plan : CoveragePlan}
    (hkey : coverage.key = (plan.date, plan.type, plan.period)) : db.coverageOf plan = some coverage := by
  cases hfound : db.coverageOf plan with
  | none =>
    refine absurd (List.find?_eq_none.mp hfound coverage hmem) ?_
    rw [not_not, decide_eq_true_eq]
    exact ⟨congrArg Prod.fst hkey, congrArg (fun key => key.2.1) hkey, congrArg (fun key => key.2.2) hkey⟩
  | some row =>
    obtain ⟨hrow, hrowKey⟩ := holds_coverageOf db plan row hfound
    rw [hdb.eq_of_key hrow hmem (hrowKey.trans hkey.symm)]

/-- The tables in which an OD is released. -/
def odReleased (s : Services) (coverage : DutyDailyCoverage) (db : DutyDb) : DutyDb :=
  (restoreAttendance coverage db).saveCoverage { coverage with status := .released, releasedAt := some s.now }

/-- No prior duty keeps an OD, and a released row is neither lost nor a substitute. -/
theorem reconcileCoverage_released (hdb : Sane db) (hmem : coverage ∈ db.coverages) (hod : coverage.dutyType = .OD)
    (excludedUserIds : List Nat) :
    reconcileCoverage s coverage.dutyDate coverage.dutyType excludedUserIds none (odReleased s coverage db) =
      propose s (odPlan coverage.dutyDate) [] excludedUserIds
        (some { coverage with status := .released, releasedAt := some s.now }) (odReleased s coverage db) := by
  have hplan : coveragePlan (odReleased s coverage db) coverage.dutyDate coverage.dutyType none =
      some (odPlan coverage.dutyDate) := by
    unfold coveragePlan
    rw [if_pos hod, hod]
    rfl
  have hkey : coverage.key = ((odPlan coverage.dutyDate).date, (odPlan coverage.dutyDate).type,
      (odPlan coverage.dutyDate).period) := by
    rw [DutyDailyCoverage.key, ((hdb.regular coverage hmem).od hod).2, hod]
    rfl
  have hcurrent : (odReleased s coverage db).coverageOf (odPlan coverage.dutyDate) =
      some { coverage with status := .released, releasedAt := some s.now } := by
    have hbefore : (restoreAttendance coverage db).coverageOf (odPlan coverage.dutyDate) = some coverage := by
      rw [coverageOf_restoreAttendance]
      exact coverageOf_of_key hdb.keyed hmem hkey
    exact coverageOf_saveCoverage hbefore rfl rfl
  have hreserved : reservedByPriorDuty (odReleased s coverage db) (odPlan coverage.dutyDate) = [] := by
    unfold reservedByPriorDuty
    rw [List.filter_eq_nil_iff.mpr]
    · rfl
    · intro row _ hprior
      cases hprior
  have hsettled : settled s (odReleased s coverage db) (odPlan coverage.dutyDate) =
      (odReleased s coverage db, some { coverage with status := .released, releasedAt := some s.now }) := by
    unfold settled
    rw [hcurrent, hreserved, settle_kept rfl]
    · rfl
    · unfold isLost
      split <;> rfl
  rw [reconcileCoverage_unrelieved hplan rfl, reconcilePlan_eq, hsettled, hreserved]
  rfl

/-- An OD without a replacement is put back as it was read. -/
theorem releaseOd_raises (hdb : Sane db) (hmem : coverage ∈ db.coverages) (hod : coverage.dutyType = .OD)
    {e : HttpException} (hraises : raises (releaseOd s coverage) db = some e) :
    leaves (releaseOd s coverage) db = reinstate coverage (odReleased s coverage db) := by
  have hreconciled := reconcileCoverage_released (s := s) hdb hmem hod coverage.assignedUserId.toList
  have hstart : releaseOd s coverage db = EStateM.bind
      (attempt (reconcileCoverage s coverage.dutyDate coverage.dutyType coverage.assignedUserId.toList none))
      (fun replacement => if isReplacement replacement then modify (recordCompletedCoverage coverage)
        else modify (reinstate coverage) >>= fun _ => reads fun _ => .error (replacementError replacement))
      (odReleased s coverage db) := rfl
  unfold raises at hraises
  unfold leaves
  rw [hstart] at hraises ⊢
  unfold EStateM.bind attempt at hraises ⊢
  rw [hreconciled] at hraises ⊢
  cases hcandidates : dutyCandidates s (odReleased s coverage db) (odPlan coverage.dutyDate) []
      coverage.assignedUserId.toList with
  | error e =>
    rw [propose_error hcandidates]
    rfl
  | ok candidates =>
    cases candidates with
    | nil =>
      rw [propose_nil hcandidates]
      rfl
    | cons primaryUserId rest =>
      rw [propose_cons hcandidates rfl] at hraises
      cases hraises

/-- A coverage of an OD that is released and put back. -/
theorem reinstate_odReleased (hdb : Sane db) (hmem : coverage ∈ db.coverages) (hactive : coverage.status = .active)
    (hheld : Held coverage) {userId : Nat} (huser : coverage.assignedUserId = some userId) :
    reinstate coverage (odReleased s coverage db) = db.saveAttendance userId coverage.dutyDate (onDuty coverage.dutyType) := by
  obtain ⟨hoverridden, hreleased⟩ := hheld.active hactive
  have hsame : reinstated coverage = coverage := by
    unfold reinstated
    rw [← hactive, ← hreleased]
  have hcoverages : ((db.coverages.map fun row => if row.id = coverage.id then
      { coverage with status := .released, releasedAt := some s.now } else row).map fun row =>
        if row.id = coverage.id then coverage else row) = db.coverages := by
    rw [List.map_map]
    refine (List.map_congr_left fun row hrow => ?_).trans (List.map_id _)
    rw [Function.comp_apply]
    by_cases hid : row.id = coverage.id
    · rw [if_pos hid, if_pos rfl]
      exact hdb.keyed.eq_coverage hmem hrow hid.symm
    · rw [if_neg hid, if_neg hid]
      rfl
  have hattendance : ((db.attendance.map fun row => if row.userId = userId ∧ row.date = coverage.dutyDate then
      restored coverage row else row).map fun row => if row.userId = userId ∧ row.date = coverage.dutyDate then
        onDuty coverage.dutyType row else row) =
      db.attendance.map fun row => if row.userId = userId ∧ row.date = coverage.dutyDate then
        onDuty coverage.dutyType row else row := by
    rw [List.map_map]
    refine List.map_congr_left fun row _ => ?_
    rw [Function.comp_apply]
    by_cases hrow : row.userId = userId ∧ row.date = coverage.dutyDate
    · rw [if_pos hrow, if_pos hrow]
      exact if_pos hrow
    · rw [if_neg hrow, if_neg hrow]
  unfold reinstate odReleased attendDuty restoreAttendance
  rw [huser, hsame]
  dsimp only
  rw [if_pos hoverridden]
  unfold DutyDb.saveCoverage DutyDb.saveAttendance
  dsimp only
  rw [huser] at hcoverages
  rw [hcoverages, hattendance]

/-! ## A venue -/

theorem over_completeMeeting {reservationId : Option Nat} (h : Over id db) : Over id (completeMeeting reservationId db) := by
  unfold Over
  rw [completeMeeting_coverages]
  exact h

theorem Over.beside (h : Over id db) (hbeside : Beside db db') : Over id db' := by
  intro row hrow hid hactive
  exact h row (hbeside.active row hrow hactive) hid hactive

/-- The coverage of a venue is over, whatever becomes of the next meeting. -/
theorem over_of_releaseVenue (hdb : Sane db) (hread : releasable s db actor id = .ok coverage)
    (hvenue : coverage.dutyType ≠ .OD) : Over coverage.id (leaves (releaseVenue s coverage) db) := by
  have hsane := hdb.change (Change.releases hread hvenue)
  have hover : Over coverage.id (completeMeeting coverage.reservationId
      ((restoreAttendance coverage (recordCompletedCoverage coverage db)).saveCoverage
        { coverage with status := .completed, releasedAt := some s.now })) :=
    over_completeMeeting (over_saveCoverage rfl DutyCoverageStatus.noConfusion)
  have hnext := (keeps_reconcileNext (s := s) (writes_closed _) coverage.dutyDate coverage.dutyType).leaves
    (Relation.ReflTransGen.refl (r := Write) (a := completeMeeting coverage.reservationId
      ((restoreAttendance coverage (recordCompletedCoverage coverage db)).saveCoverage
        { coverage with status := .completed, releasedAt := some s.now })))
  exact hover.beside (hsane.writes hnext).2

/-! ## A release -/

/-- **A rejected release leaves the duty state as it was** exactly where it does not pass the checks, or it is of an OD
whose attendance is as its activation wrote it. -/
theorem rejected_release_leaves_the_state {history : List (Transition DutyDb Event)} (h : Run duties history db)
    {e : HttpException} (hraises : raises (releaseCoverage s actor id) db = some e) :
    LeftAlone db (leaves (releaseCoverage s actor id) db) ↔ IsUndone s db actor id := by
  obtain ⟨hdb, -⟩ := alone_of_run h
  cases hread : releasable s db actor id with
  | error e' =>
    have hsame : leaves (releaseCoverage s actor id) db = db := by
      unfold releaseCoverage
      rw [leaves_reads_error (f := fun db => releasable s db actor id) hread]
    rw [hsame]
    refine ⟨fun _ coverage hcoverage => ?_, fun _ => ⟨rfl, rfl, rfl, rfl⟩⟩
    rw [hread] at hcoverage
    cases hcoverage
  | ok coverage =>
    obtain ⟨hmem, hid, hactive⟩ := releasable_eq_ok hread
    have hheld : Held coverage := held_of_run h coverage hmem
    have hundone : IsUndone s db actor id ↔ coverage.dutyType = .OD ∧ ∀ attendance ∈ db.attendance,
        coverage.assignedUserId = some attendance.userId → attendance.date = coverage.dutyDate →
          attendance = onDuty coverage.dutyType attendance := by
      refine ⟨fun hall => hall coverage hread, fun hcoverage other hother => ?_⟩
      cases hread.symm.trans hother
      exact hcoverage
    have hstart : releaseCoverage s actor id db =
        (if coverage.dutyType = .OD then releaseOd s coverage else releaseVenue s coverage : DutyM Unit) db :=
      reads_bind_ok (f := fun db => releasable s db actor id) hread
    unfold raises at hraises
    unfold leaves
    rw [hstart] at hraises ⊢
    rw [hundone]
    by_cases hod : coverage.dutyType = .OD
    · rw [if_pos hod] at hraises ⊢
      obtain ⟨userId, huser⟩ := Option.isSome_iff_exists.mp (hheld.overrides (hheld.active hactive).1).1
      have hleaves := releaseOd_raises hdb hmem hod hraises
      rw [reinstate_odReleased hdb hmem hactive hheld huser] at hleaves
      change LeftAlone db (leaves (releaseOd s coverage) db) ↔ _
      rw [hleaves, huser]
      constructor
      · intro hleft
        refine ⟨hod, fun attendance hattendance hsame hdate => ?_⟩
        have hrow := List.map_inj_left.mp (hleft.attendance.trans (List.map_id _).symm) attendance hattendance
        rw [if_pos ⟨(Option.some.inj hsame).symm, hdate⟩] at hrow
        exact hrow.symm
      · rintro ⟨-, hall⟩
        refine ⟨rfl, ?_, rfl, rfl⟩
        refine (List.map_congr_left fun row hrow => ?_).trans (List.map_id _)
        split_ifs with hsame
        · exact (hall row hrow (congrArg some hsame.1.symm) hsame.2).symm
        · rfl
    · rw [if_neg hod]
      refine ⟨fun hleft => ?_, fun hboth => absurd hboth.1 hod⟩
      have hover := over_of_releaseVenue hdb hread hod
      refine absurd hactive (hover coverage ?_ rfl)
      have hcoverages := hleft.coverages
      change (leaves (releaseVenue s coverage) db).coverages = _ at hcoverages
      rw [hcoverages]
      exact hmem

/-! ## Releases that are rejected -/

/-- The second technician is not there to take over. -/
def loneOd : Services := { nineOClock with usersById := [1] }

theorem rejected_release_of_the_od : LeftAlone odOnDuty (leaves (releaseCoverage loneOd dutyAdministrator 1) odOnDuty) := by
  obtain ⟨history, hrun⟩ := run_odOnDuty
  have hraises : raises (releaseCoverage loneOd dutyAdministrator 1) odOnDuty =
      some (.badRequest "No eligible replacement technician is available. The current OD remains active.") := by
    decide +kernel
  refine (rejected_release_leaves_the_state hrun hraises).mpr fun coverage hread => ?_
  have hrows : ∀ row ∈ odOnDuty.coverages, row.status = .active → row.dutyType = .OD ∧
      ∀ attendance ∈ odOnDuty.attendance, row.assignedUserId = some attendance.userId →
        attendance.date = row.dutyDate → attendance = onDuty row.dutyType attendance := by
    decide +kernel
  obtain ⟨hmem, -, hactive⟩ := releasable_eq_ok hread
  exact hrows coverage hmem hactive

def venueDay : DutyDb where
  reservations := [morningMeeting, afternoonMeeting]
  attendance := meetingDay.attendance
  nextId := 2

/-- The roster is emptied while the morning meeting is covered. -/
theorem released_without_a_roster : ¬ ∀ (history : List (Transition DutyDb Event)) (db : DutyDb), Run duties history db →
    ∀ (s : Services) (actor : Actor) (id : Nat) (e : HttpException), raises (releaseCoverage s actor id) db = some e →
      LeftAlone db (leaves (releaseCoverage s actor id) db) := by
  intro hall
  have hinit : Run duties [] venueDay := by
    refine .init ⟨⟨⟨?_, ?_, ?_, ?_, ?_, ?_, ?_⟩, ?_⟩, rfl⟩
    · exact List.nodup_nil
    · exact List.nodup_nil
    · decide
    · exact fun _ hmem => absurd hmem List.not_mem_nil
    · decide
    · decide
    · decide
    · exact fun _ hmem => absurd hmem List.not_mem_nil
  obtain ⟨history, hrun, -⟩ := run_operations (P := fun _ _ => True) (s := nineOClock)
    [.reconcileToday, .activateCoverage dutyAdministrator 3 2] hinit (fun _ _ => trivial) ⟨trivial, trivial, trivial⟩
  have hleft := hall history _ hrun { nineOClock with roster := [] } dutyAdministrator 3
    (.badRequest "No eligible ROC duty roster members.") (by decide +kernel)
  have hlogs : (leaves (releaseCoverage { nineOClock with roster := [] } dutyAdministrator 3)
      (after nineOClock venueDay [.reconcileToday, .activateCoverage dutyAdministrator 3 2])).assignments ≠
      (after nineOClock venueDay [.reconcileToday, .activateCoverage dutyAdministrator 3 2]).assignments := by
    decide +kernel
  exact hlogs hleft.assignments

end ComplianceHub.Duty
