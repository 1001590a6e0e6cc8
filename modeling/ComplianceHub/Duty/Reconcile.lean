import ComplianceHub.Duty.Writes

/-!
# What reconciliation writes

* `keeps_reconcileCoverage`, `keeps_reconcileToday`, `keeps_reconcileNext` : what every write beside the meetings keeps,
  reconciliation keeps.
-/

namespace ComplianceHub.Duty

open ComplianceHub.Lib

variable {db : DutyDb} {coverage : DutyDailyCoverage}
variable {I : DutyDb → Prop} (hI : ∀ db db', I db → Write db db' → I db') {s : Services} {plan : CoveragePlan}

/-- The coverage in memory is the row of its day, duty and period. -/
def Holds (plan : CoveragePlan) (c : Current) : Prop :=
  ∀ coverage, c.2 = some coverage → coverage ∈ c.1.coverages ∧ coverage.key = (plan.date, plan.type, plan.period)

theorem holds_coverageOf (db : DutyDb) (plan : CoveragePlan) : Holds plan (db, db.coverageOf plan) := by
  intro coverage h
  obtain ⟨hdate, htype, hperiod⟩ := of_decide_eq_true (List.find?_some
    (p := fun row : DutyDailyCoverage => decide (row.dutyDate = plan.date ∧ row.dutyType = plan.type ∧
      row.dutyPeriod = plan.period)) h)
  refine ⟨List.mem_of_find?_eq_some h, ?_⟩
  rw [DutyDailyCoverage.key, hdate, htype, hperiod]

/-- An OD is for no meeting, and for the whole day. -/
def CoveragePlan.Regular (plan : CoveragePlan) : Prop :=
  plan.type = .OD → plan.reservations = [] ∧ plan.period = .WHOLE_DAY

theorem regular_coveragePlan {db : DutyDb} {date : Int} {type : DutyType} {requestedPeriod : Option DutyPeriod}
    (h : coveragePlan db date type requestedPeriod = some plan) : plan.Regular := by
  unfold coveragePlan at h
  dsimp only at h
  split_ifs at h with htype
  · cases h
    exact fun _ => ⟨rfl, rfl⟩
  · split at h
    · cases h
    · split_ifs at h
      cases h
      exact fun hod => absurd hod htype

theorem regular_pendingCoverage (hplan : plan.Regular) {id primaryUserId : Nat} :
    (pendingCoverage id plan primaryUserId).Regular where
  od hod := by
    obtain ⟨hreservations, hperiod⟩ := hplan hod
    refine ⟨?_, hperiod⟩
    show plan.reservations.head?.map DutyMeetingReservation.id = none
    rw [hreservations]
    rfl
  released hreleased := DutyCoverageStatus.noConfusion hreleased

include hI

theorem yieldToPriorDuty_keeps (reserved : List (Nat × DutyDailyCoverage)) (date : Int) {c : Current} (h : I c.1)
    (hc : Holds plan c) : I (yieldToPriorDuty reserved date c).1 ∧ Holds plan (yieldToPriorDuty reserved date c) := by
  obtain ⟨db, current⟩ := c
  unfold yieldToPriorDuty
  split
  · exact ⟨h, hc⟩
  · rename_i coverage hcurrent
    obtain ⟨hmem, hkey⟩ := hc coverage hcurrent
    split
    · exact ⟨h, hc⟩
    · split
      · exact ⟨h, hc⟩
      · refine ⟨hI _ _ h (.yields hmem), fun other hother => ?_⟩
        cases hother
        refine ⟨saveCoverage_mem (?_ : coverage ∈ _) rfl, hkey⟩
        rwa [handOver_coverages]

theorem endLost_keeps (s : Services) (date : Int) {c : Current} (h : I c.1) (hc : Holds plan c) :
    I (endLost s date c).1 ∧ Holds plan (endLost s date c) := by
  obtain ⟨db, current⟩ := c
  unfold endLost
  split
  · exact ⟨h, hc⟩
  · rename_i coverage hcurrent
    split_ifs
    · have hsaved : Replaces { coverage with status := .cancelled } coverage :=
        .of_meeting rfl rfl rfl DutyCoverageStatus.noConfusion
      refine ⟨hI _ _ h (.ends (hc coverage hcurrent).1 hsaved ?_ fun hover => ⟨hover, rfl, rfl, rfl⟩), ?_⟩
      · exact DutyCoverageStatus.noConfusion
      · intro other hother
        cases hother
    · exact ⟨h, hc⟩

theorem endSubstitute_keeps {c : Current} (h : I c.1) (hc : Holds plan c) :
    I (endSubstitute c).1 ∧ Holds plan (endSubstitute c) := by
  obtain ⟨db, current⟩ := c
  unfold endSubstitute
  split
  · exact ⟨h, hc⟩
  · rename_i coverage hcurrent
    obtain ⟨hmem, hkey⟩ := hc coverage hcurrent
    split_ifs
    · have hsaved : Replaces (withoutSubstitute coverage) coverage :=
        .of_meeting rfl rfl rfl DutyCoverageStatus.noConfusion
      refine ⟨hI _ _ h (.ends hmem hsaved ?_ ?_), fun other hother => ?_⟩
      · exact DutyCoverageStatus.noConfusion
      · intro hover
        cases hover
      · cases hother
        refine ⟨saveCoverage_mem (?_ : coverage ∈ _) rfl, hkey⟩
        rwa [restoreAttendance_coverages]
    · exact ⟨h, hc⟩

theorem settle_keeps {reserved : List (Nat × DutyDailyCoverage)} {c : Current} (h : I c.1) (hc : Holds plan c) :
    I (settle s plan reserved c).1 ∧ Holds plan (settle s plan reserved c) := by
  obtain ⟨h, hc⟩ := yieldToPriorDuty_keeps hI reserved plan.date h hc
  obtain ⟨h, hc⟩ := endLost_keeps hI s plan.date h hc
  exact endSubstitute_keeps hI h hc

theorem keeps_withdraw {current : Option DutyDailyCoverage} (h : I db) (hc : Holds plan (db, current)) :
    I (withdraw current db) := by
  unfold withdraw
  split
  · exact h
  · rename_i coverage
    split_ifs with hpending
    · have hsaved : Replaces { coverage with status := .cancelled } coverage :=
        .of_meeting rfl rfl rfl DutyCoverageStatus.noConfusion
      refine hI _ _ h (.changes (hc coverage rfl).1 hsaved ?_ ?_ fun hover => ⟨hover, rfl, rfl, rfl⟩)
      · rw [hpending]
        exact DutyCoverageStatus.noConfusion
      · exact DutyCoverageStatus.noConfusion
    · exact h

theorem keeps_writeProposed {current : Option DutyDailyCoverage} {primaryUserId : Nat} (hplan : plan.Regular) (h : I db)
    (hc : Holds plan (db, current)) (hactive : ∀ coverage, current = some coverage → coverage.status ≠ .active)
    (hproposed : proposed db plan primaryUserId current = .ok coverage) : I (writeProposed current coverage db) := by
  unfold proposed at hproposed
  unfold writeProposed
  split at hproposed
  · rename_i old
    cases hproposed
    obtain ⟨hmem, hkey⟩ := hc old rfl
    refine hI _ _ h (.changes hmem ⟨rfl, hkey.symm, fun _ => regular_pendingCoverage hplan⟩ (hactive old rfl) ?_ ?_)
    · exact DutyCoverageStatus.noConfusion
    · intro hover
      cases hover
  · split at hproposed
    · cases hproposed
    · rename_i hnone
      cases hproposed
      refine hI _ _ h (.inserts rfl (fun hkey => ?_) ?_ rfl (regular_pendingCoverage hplan))
      · obtain ⟨row, hrow, hkey⟩ := List.mem_map.mp hkey
        refine absurd (List.find?_eq_none.mp hnone row hrow) ?_
        rw [not_not, decide_eq_true_eq]
        exact ⟨congrArg Prod.fst hkey, congrArg (fun key => key.2.1) hkey, congrArg (fun key => key.2.2) hkey⟩
      · exact DutyCoverageStatus.noConfusion

theorem keeps_propose {reserved : List (Nat × DutyDailyCoverage)} {excludedUserIds : List Nat}
    {current : Option DutyDailyCoverage} (hplan : plan.Regular) (hactive : ∀ coverage, current = some coverage → coverage.status ≠ .active) :
    Triple (fun db => I db ∧ Holds plan (db, current)) (propose s plan reserved excludedUserIds current) (fun _ => I) I := by
  refine triple_bind (Q := fun _ db => I db ∧ Holds plan (db, current))
    (triple_reads (fun _ _ h _ => h) fun _ h => h.1) fun candidates => ?_
  cases candidates with
  | nil =>
    refine triple_bind (Q := fun _ => I) (triple_modify fun db h => keeps_withdraw hI h.1 h.2) fun _ => ?_
    exact triple_pure fun _ h => h
  | cons primaryUserId rest =>
    refine triple_bind
      (Q := fun coverage db => (I db ∧ Holds plan (db, current)) ∧ proposed db plan primaryUserId current = .ok coverage)
      (triple_reads (fun _ _ h hproposed => ⟨h, hproposed⟩) fun _ h => h.1) fun coverage => ?_
    refine triple_bind (Q := fun _ => I)
      (triple_modify fun db h => keeps_writeProposed hI hplan h.1.1 h.1.2 hactive h.2) fun _ => ?_
    exact triple_pure fun _ h => h

theorem keeps_reconcilePlan (hplan : plan.Regular) (excludedUserIds : List Nat) : Keeps I (reconcilePlan s plan excludedUserIds) := by
  refine triple_bind (Q := fun _ => I) (triple_reads (fun _ _ h _ => h) fun _ h => h) fun reserved => ?_
  refine triple_bind (Q := fun current db => I db ∧ Holds plan (db, current))
    (triple_modifyGet fun db h => settle_keeps hI h (holds_coverageOf db plan)) fun current => ?_
  split_ifs with hactive
  · exact triple_pure fun _ h => h.1
  · refine keeps_propose hI hplan fun coverage hcoverage hstatus => hactive ?_
    rw [hcoverage, Option.any_some, hstatus]
    rfl

theorem replaceByRelievers_keeps (h : I db) : I (replaceByRelievers (db.coverageOf plan) db) := by
  unfold replaceByRelievers
  split
  · exact h
  · rename_i coverage hcurrent
    have hsaved : Replaces (cancelledForRelievers coverage) coverage :=
      .of_meeting rfl rfl rfl DutyCoverageStatus.noConfusion
    refine hI _ _ h (.ends (holds_coverageOf db plan coverage hcurrent).1 hsaved ?_ ?_)
    · exact DutyCoverageStatus.noConfusion
    · intro hover
      cases hover

theorem keeps_reconcileCoverage (date : Int) (type : DutyType) (excludedUserIds : List Nat)
    (requestedPeriod : Option DutyPeriod) : Keeps I (reconcileCoverage s date type excludedUserIds requestedPeriod) := by
  refine triple_bind (Q := fun read db => I db ∧ ∀ entry, read = some entry → entry.1.Regular)
    (triple_reads (fun db read h hread => ⟨h, ?_⟩) fun _ h => h) fun read => ?_
  · rintro entry rfl
    obtain ⟨plan, hplan, rfl⟩ := Option.map_eq_some_iff.mp (Except.ok.inj hread)
    exact regular_coveragePlan hplan
  match read with
  | none => exact triple_pure fun _ h => h.1
  | some (plan, true) =>
    refine triple_bind (Q := fun _ => I) (triple_modify fun _ h => replaceByRelievers_keeps hI h.1) fun _ => ?_
    exact triple_pure fun _ h => h
  | some (plan, false) => exact fun db h => keeps_reconcilePlan hI (h.2 _ rfl) excludedUserIds db h.1

theorem keeps_reconcileDuty (date : Int) (type : DutyType) (requestedPeriod : Option DutyPeriod) :
    Keeps I (reconcileDuty s date type requestedPeriod) :=
  triple_bind (keeps_reconcileCoverage hI date type [] requestedPeriod) fun _ => triple_pure fun _ h => h

theorem keeps_reconcileToday : Keeps I (reconcileToday s) := by
  unfold reconcileToday
  split_ifs
  · exact triple_pure fun _ h => h
  · refine triple_bind (Q := fun _ => I) (triple_modify fun db h => hI _ _ h (.sweeps s.today)) fun _ => ?_
    exact Keeps.forM (fun type => keeps_reconcileDuty hI s.today type none) DUTY_PRIORITY

theorem keeps_reconcileNext (date : Int) (type : DutyType) : Keeps I (reconcileNext s date type) := by
  refine triple_bind (Q := fun _ => I) (triple_reads (fun _ _ h _ => h) fun _ h => h) fun next => ?_
  match next with
  | none => exact triple_pure fun _ h => h
  | some next => exact keeps_reconcileDuty hI date type (some next.period)

end ComplianceHub.Duty
