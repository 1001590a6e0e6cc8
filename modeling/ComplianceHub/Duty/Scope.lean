import ComplianceHub.Duty.OwnRow

/-!
# What a duty exception reaches

Two runs of `reconcileCoverage` from tables that differ in one exception, which is for another duty.

* `EndsDuty` : an active coverage that nothing but the exception ends, for the active technician's exceptions are read
  without their duty;
* `exception_stays_in_its_duty` : the duty is the same in both runs where there is no such coverage, and only there.
-/

namespace ComplianceHub.Duty

open ComplianceHub.Lib

variable {s : Services} {db : DutyDb} {plan : CoveragePlan} {coverage : DutyDailyCoverage} {e : DutyException}
variable {exceptions : List DutyException} {date : Int} {type : DutyType} {requestedPeriod : Option DutyPeriod}

/-- An active coverage of the day whose technician has the exception, and nothing else that ends it. -/
structure EndsDuty (s : Services) (db : DutyDb) (e : DutyException) (plan : CoveragePlan) (coverage : DutyDailyCoverage) :
    Prop extends Considered db plan coverage where
  active : coverage.status = .active
  technician : coverage.assignedUserId = some e.userId
  day : e.exceptionDate = plan.date
  stays : isLost s db plan.date coverage = false

/-- The duty has such a coverage. -/
def Ends (s : Services) (db : DutyDb) (e : DutyException) (date : Int) (type : DutyType)
    (requestedPeriod : Option DutyPeriod) : Prop :=
  ∃ plan coverage, coveragePlan db date type requestedPeriod = some plan ∧ EndsDuty s db e plan coverage

/-- The row of the duty, with its assignee and status, and every attendance. -/
structure SameDuty (db db' : DutyDb) (plan : CoveragePlan) : Prop where
  row : db'.coverageOf plan = db.coverageOf plan
  attendance : db'.attendance = db.attendance

/-- The duty is reconciled with the exceptions as it is without. -/
def SameReconciled (s : Services) (db : DutyDb) (exceptions : List DutyException) (date : Int) (type : DutyType)
    (excludedUserIds : List Nat) (requestedPeriod : Option DutyPeriod) : Prop :=
  ∀ plan, coveragePlan db date type requestedPeriod = some plan →
    SameDuty (leaves (reconcileCoverage s date type excludedUserIds requestedPeriod) db)
      (leaves (reconcileCoverage s date type excludedUserIds requestedPeriod) (withExceptions exceptions db)) plan

/-! ## The exception in the rotation, and of the active technician -/

theorem any_added {p : DutyException → Bool} (h : exceptions.Perm (e :: db.exceptions)) :
    exceptions.any p = (p e || db.exceptions.any p) := by
  rw [Bool.eq_iff_iff, ← List.any_cons, List.any_eq_true, List.any_eq_true]
  simp only [h.mem_iff]

theorem sameRotation_added (h : exceptions.Perm (e :: db.exceptions)) {own : DutyType} (hown : e.dutyType = some own)
    (hother : own ≠ type) : SameRotation exceptions db.exceptions date type := by
  intro userId
  have hnot : excludes date type userId e = false := by
    unfold excludes
    rw [hown, Option.all_some, decide_eq_false hother, Bool.and_false]
  rw [any_added h, hnot, Bool.false_or]

theorem isLost_added (h : exceptions.Perm (e :: db.exceptions)) (date : Int) (coverage : DutyDailyCoverage) :
    isLost s (withExceptions exceptions db) date coverage = true ↔ isLost s db date coverage = true ∨
      (coverage.status = .active ∧ coverage.assignedUserId = some e.userId ∧ e.exceptionDate = date) := by
  unfold isLost
  cases huser : coverage.assignedUserId with
  | none => simp
  | some userId =>
    have hsame : isActiveCoverageAttendanceEligible s (withExceptions exceptions db) coverage userId =
        isActiveCoverageAttendanceEligible s db coverage userId := rfl
    dsimp only
    rw [show (withExceptions exceptions db).exceptions = exceptions from rfl, any_added h, hsame]
    simp only [Bool.and_eq_true, Bool.or_eq_true, decide_eq_true_eq, Option.some.injEq]
    constructor
    · rintro ⟨hactive, (⟨hdate, rfl⟩ | hexception) | hattendance⟩
      · exact .inr ⟨hactive, rfl, hdate⟩
      · exact .inl ⟨hactive, .inl hexception⟩
      · exact .inl ⟨hactive, .inr hattendance⟩
    · rintro (⟨hactive, hexception | hattendance⟩ | ⟨hactive, rfl, hdate⟩)
      · exact ⟨hactive, .inl (.inr hexception)⟩
      · exact ⟨hactive, .inr hattendance⟩
      · exact ⟨hactive, .inl (.inl ⟨hdate, rfl⟩)⟩

/-- Where the exception ends no duty, the row is lost with it where it is lost without. -/
theorem sameLoss_added (h : exceptions.Perm (e :: db.exceptions)) (hnone : ¬ Ends s db e date type requestedPeriod)
    (hplan : coveragePlan db date type requestedPeriod = some plan) : SameLoss s exceptions db plan := by
  intro coverage hconsidered
  cases hlost : isLost s db plan.date coverage with
  | true => exact (isLost_added h plan.date coverage).mpr (.inl hlost)
  | false =>
    rw [Bool.eq_false_iff]
    intro hadded
    rcases (isLost_added h plan.date coverage).mp hadded with hlost' | ⟨hactive, htechnician, hday⟩
    · exact Bool.false_ne_true (hlost.symm.trans hlost')
    · exact hnone ⟨plan, coverage, hplan, hconsidered, hactive, htechnician, hday, hlost⟩

/-! ## The duty that the exception ends -/

/-- The row of a plan is not cancelled, or nobody is assigned. -/
def Remains (plan : CoveragePlan) (db : DutyDb) : Prop :=
  ∃ row, db.coverageOf plan = some row ∧ (row.status ≠ .cancelled ∨ row.assignedUserId = none)

theorem triple_propose_remains {reserved : List (Nat × DutyDailyCoverage)} (excludedUserIds : List Nat)
    (hstatus : coverage.status ≠ .cancelled) (hnobody : coverage.assignedUserId = none) :
    Triple (fun db => db.coverageOf plan = some coverage)
      (propose s plan reserved excludedUserIds (some coverage)) (fun _ => Remains plan) (Remains plan) := by
  have hrow (db : DutyDb) (h : db.coverageOf plan = some coverage) : Remains plan db := ⟨coverage, h, .inl hstatus⟩
  refine triple_bind (Q := fun _ db => db.coverageOf plan = some coverage) (triple_reads (fun _ _ h _ => h) hrow)
    fun candidates => ?_
  cases candidates with
  | nil =>
    refine triple_bind (Q := fun _ => Remains plan) (triple_modify fun db h => ?_) fun _ => triple_pure fun _ h => h
    unfold withdraw
    dsimp only
    split_ifs
    · exact ⟨_, coverageOf_saveCoverage h rfl rfl, .inr hnobody⟩
    · exact hrow db h
  | cons primaryUserId rest =>
    refine triple_bind (Q := fun saved db => db.coverageOf plan = some coverage ∧
      saved = pendingCoverage coverage.id plan primaryUserId) (triple_reads (fun _ _ h hread => ⟨h, ?_⟩) hrow) fun saved => ?_
    · exact (Except.ok.inj hread).symm
    · refine triple_bind (Q := fun _ => Remains plan) (triple_modify fun db h => ?_) fun _ => triple_pure fun _ h => h
      obtain ⟨h, rfl⟩ := h
      refine ⟨_, coverageOf_saveCoverage h rfl ?_, .inl ?_⟩
      · exact (holds_coverageOf db plan coverage h).2.symm
      · exact DutyCoverageStatus.noConfusion

/-- Without the exception the duty remains. -/
theorem remains_without (h : EndsDuty s db e plan coverage) (excludedUserIds : List Nat) :
    Remains plan (leaves (reconcilePlan s plan excludedUserIds) db) := by
  have hsettled : settled s db plan = endSubstitute (db, some coverage) := by
    rw [settled, h.current, settle_kept h.free h.stays]
  unfold leaves
  rw [reconcilePlan_eq, hsettled]
  by_cases hsubstitute : coverage.isSubstitute = true
  · have hends : endSubstitute (db, some coverage) = ((restoreAttendance coverage db).saveCoverage (withoutSubstitute coverage),
        some (withoutSubstitute coverage)) := if_pos ⟨h.active, hsubstitute⟩
    rw [hends]
    have hrow : (restoreAttendance coverage db).coverageOf plan = some coverage := by
      rw [coverageOf_restoreAttendance]
      exact h.current
    refine (triple_propose_remains excludedUserIds ?_ rfl).leaves (coverageOf_saveCoverage hrow rfl rfl)
    exact DutyCoverageStatus.noConfusion
  · have hends : endSubstitute (db, some coverage) = (db, some coverage) := if_neg fun hboth => hsubstitute hboth.2
    rw [hends, Option.any_some, h.active]
    refine ⟨coverage, h.current, .inl ?_⟩
    rw [h.active]
    exact DutyCoverageStatus.noConfusion

/-- With the exception the row is cancelled, and its technician stays in it. -/
theorem cancelled_with (h : exceptions.Perm (e :: db.exceptions)) (hends : EndsDuty s db e plan coverage)
    (excludedUserIds : List Nat) :
    (leaves (reconcilePlan s plan excludedUserIds) (withExceptions exceptions db)).coverageOf plan =
      some { coverage with status := .cancelled } := by
  have hconsidered : Considered (withExceptions exceptions db) plan coverage :=
    ⟨hends.unrelieved, hends.current, hends.free⟩
  have hlost : isLost s (withExceptions exceptions db) plan.date coverage = true :=
    (isLost_added h plan.date coverage).mpr (.inr ⟨hends.active, hends.technician, hends.day⟩)
  rw [leaves_lost hconsidered hlost]
  exact coverageOf_givenUp hconsidered.current

/-- **Exceptions are scoped to their duty** but for the active technician's: where an exception of another duty ends no
coverage, the whole reconciliation is the same with it. -/
theorem exception_stays_in_its_duty (s : Services) (db : DutyDb) (date : Int) (type : DutyType) (excludedUserIds : List Nat)
    (requestedPeriod : Option DutyPeriod) (h : exceptions.Perm (e :: db.exceptions)) {own : DutyType}
    (hown : e.dutyType = some own) (hother : own ≠ type) :
    (SameReconciled s db exceptions date type excludedUserIds requestedPeriod ↔ ¬ Ends s db e date type requestedPeriod) ∧
      (¬ Ends s db e date type requestedPeriod → Carries (withExceptions exceptions)
        (reconcileCoverage s date type excludedUserIds requestedPeriod) db) := by
  have hcarries (hnone : ¬ Ends s db e date type requestedPeriod) : Carries (withExceptions exceptions)
      (reconcileCoverage s date type excludedUserIds requestedPeriod) db :=
    carries_reconcileCoverage excludedUserIds requestedPeriod (sameRotation_added h hown hother)
      fun plan hplan => sameLoss_added h hnone hplan
  refine ⟨⟨fun hsame => ?_, fun hnone plan hplan => ?_⟩, hcarries⟩
  · rintro ⟨plan, coverage, hplan, hends⟩
    have hplan' : coveragePlan (withExceptions exceptions db) date type requestedPeriod = some plan := hplan
    have hwith := leaves_unrelieved (s := s) hplan' hends.unrelieved excludedUserIds
    have hrow := (hsame plan hplan).row
    rw [leaves_unrelieved hplan hends.unrelieved, hwith, cancelled_with h hends] at hrow
    obtain ⟨row, hfound, hremains⟩ := remains_without hends excludedUserIds
    obtain rfl := Option.some.inj (hrow.trans hfound)
    rcases hremains with hremains | hremains
    · exact hremains rfl
    · rw [show _ = some e.userId from hends.technician] at hremains
      cases hremains
  · rw [(hcarries hnone).leaves]
    exact ⟨rfl, rfl⟩

/-! ## An exception of a venue, and the OD -/

/-- A technician is not available for the meetings of the ROC. -/
def rocException (userId : Nat) : DutyException where
  id := 9
  exceptionDate := 0
  userId := userId
  dutyType := some .ROC
  type := .canvass
  createdById := 9

theorem exception_of_another_stays_in_its_duty :
    SameReconciled nineOClock odOnDuty [rocException 2] 0 .OD [] none := by
  have hperm : [rocException 2].Perm (rocException 2 :: odOnDuty.exceptions) := by decide +kernel
  refine (exception_stays_in_its_duty nineOClock odOnDuty 0 .OD [] none hperm rfl DutyType.noConfusion).1.mpr ?_
  rintro ⟨plan, coverage, -, hends⟩
  have hnot : ∀ row ∈ odOnDuty.coverages, row.assignedUserId ≠ some 2 := by decide +kernel
  exact hnot coverage (holds_coverageOf odOnDuty plan coverage hends.current).1 hends.technician

/-- The OD is taken off duty by an exception for the ROC. -/
theorem od_ended_by_roc_exception : ¬ ∀ (history : List (Transition DutyDb Event)) (db : DutyDb), Run duties history db →
    ∀ (s : Services) (date : Int) (type own : DutyType) (e : DutyException) (exceptions : List DutyException),
      exceptions.Perm (e :: db.exceptions) → e.dutyType = some own → own ≠ type →
      SameReconciled s db exceptions date type [] none := by
  intro hall
  obtain ⟨history, hrun⟩ := run_odOnDuty
  have hperm : [rocException 1].Perm (rocException 1 :: odOnDuty.exceptions) := by decide +kernel
  have hsame := hall history odOnDuty hrun nineOClock 0 .OD .ROC (rocException 1) [rocException 1] hperm rfl
    DutyType.noConfusion { date := 0, type := .OD, period := .WHOLE_DAY } rfl
  refine absurd hsame.row ?_
  decide +kernel

end ComplianceHub.Duty
