import ComplianceHub.Duty.OneDuty
import ComplianceHub.Lib.Carries

/-!
# The coverage that reconciliation looks at

* `Considered` : the row of a plan without relievers, whose technician no prior duty keeps;
* `settle_yields`, `settle_lost`, `settle_kept` : what becomes of the row before a technician is proposed;
* `reconcileCoverage_unrelieved`, `reconcilePlan_eq` : the reconciliation of a plan, from there on;
* `leaves_lost` : a row that is lost stays cancelled, for no other can be written beside it;
* `carries_reconcileCoverage` : other exceptions are carried through where the row and the rotation do not tell them apart.
-/

namespace ComplianceHub.Duty

open ComplianceHub.Lib

variable {s : Services} {db : DutyDb} {plan : CoveragePlan} {coverage saved : DutyDailyCoverage}
variable {reserved : List (Nat × DutyDailyCoverage)} {date : Int} {type : DutyType}

/-- The prior duty that keeps the technician of a coverage. -/
def keptFor (reserved : List (Nat × DutyDailyCoverage)) (coverage : DutyDailyCoverage) : Option DutyDailyCoverage :=
  (coverageCandidateUserId coverage).bind (priorCoverageOf reserved)

/-- The row of a plan without relievers, whose technician no prior duty keeps. -/
structure Considered (db : DutyDb) (plan : CoveragePlan) (coverage : DutyDailyCoverage) : Prop where
  unrelieved : hasRelievers db plan = false
  current : db.coverageOf plan = some coverage
  free : keptFor (reservedByPriorDuty db plan) coverage = none

/-! ## The row before a technician is proposed -/

theorem yieldToPriorDuty_free (h : keptFor reserved coverage = none) :
    yieldToPriorDuty reserved date (db, some coverage) = (db, some coverage) := by
  unfold keptFor at h
  unfold yieldToPriorDuty
  dsimp only
  cases huser : coverageCandidateUserId coverage with
  | none => rfl
  | some userId =>
    rw [huser, Option.bind_some] at h
    dsimp only
    rw [h]

theorem yieldToPriorDuty_kept {prior : DutyDailyCoverage} {userId : Nat}
    (huser : coverageCandidateUserId coverage = some userId) (hprior : priorCoverageOf reserved userId = some prior) :
    yieldToPriorDuty reserved date (db, some coverage) =
      ((handOver coverage prior userId date db).saveCoverage (yielded coverage), some (yielded coverage)) := by
  unfold yieldToPriorDuty
  dsimp only
  rw [huser]
  dsimp only
  rw [hprior]

theorem endLost_lost (h : isLost s db date coverage = true) : endLost s date (db, some coverage) =
    ((restoreAttendance coverage db).saveCoverage { coverage with status := .cancelled }, none) := if_pos h

theorem endLost_not_lost (h : isLost s db date coverage = false) : endLost s date (db, some coverage) = (db, some coverage) :=
  if_neg (Bool.eq_false_iff.mp h)

/-- A row that is yielded is not active, so nothing else ends it. -/
theorem settle_yields {prior : DutyDailyCoverage} {userId : Nat} (huser : coverageCandidateUserId coverage = some userId)
    (hprior : priorCoverageOf reserved userId = some prior) : settle s plan reserved (db, some coverage) =
      ((handOver coverage prior userId plan.date db).saveCoverage (yielded coverage), some (yielded coverage)) := by
  unfold settle
  rw [yieldToPriorDuty_kept huser hprior, endLost_not_lost rfl]
  rfl

theorem settle_lost (h : keptFor reserved coverage = none) (hlost : isLost s db plan.date coverage = true) :
    settle s plan reserved (db, some coverage) =
      ((restoreAttendance coverage db).saveCoverage { coverage with status := .cancelled }, none) := by
  unfold settle
  rw [yieldToPriorDuty_free h, endLost_lost hlost]
  rfl

theorem settle_kept (h : keptFor reserved coverage = none) (hlost : isLost s db plan.date coverage = false) :
    settle s plan reserved (db, some coverage) = endSubstitute (db, some coverage) := by
  unfold settle
  rw [yieldToPriorDuty_free h, endLost_not_lost hlost]

theorem endSubstitute_some (db : DutyDb) (coverage : DutyDailyCoverage) :
    ∃ other, (endSubstitute (db, some coverage)).2 = some other := by
  unfold endSubstitute
  dsimp only
  split_ifs
  · exact ⟨_, rfl⟩
  · exact ⟨_, rfl⟩

/-! ## The row afterwards -/

theorem find?_overwritten {p : DutyDailyCoverage → Bool} (hsaved : p saved = true) (hid : saved.id = coverage.id)
    (rows : List DutyDailyCoverage) (h : rows.find? p = some coverage) :
    (rows.map fun row => if row.id = saved.id then saved else row).find? p = some saved := by
  induction rows with
  | nil => cases h
  | cons row rest ih =>
    rw [List.map_cons]
    by_cases hrow : row.id = saved.id
    · rw [if_pos hrow, List.find?_cons_of_pos hsaved]
    · rw [if_neg hrow]
      by_cases hmatch : p row = true
      · rw [List.find?_cons_of_pos hmatch] at h
        cases h
        exact absurd hid.symm hrow
      · rw [List.find?_cons_of_neg hmatch] at h ⊢
        exact ih h

/-- A row that is written over the row of a plan is the row of the plan. -/
theorem coverageOf_saveCoverage (h : db.coverageOf plan = some coverage) (hid : saved.id = coverage.id)
    (hkey : saved.key = coverage.key) : (db.saveCoverage saved).coverageOf plan = some saved := by
  refine find?_overwritten ?_ hid db.coverages h
  have hfound := List.find?_some h
  simp only [DutyDailyCoverage.key, Prod.mk.injEq] at hkey
  rw [hkey.1, hkey.2.1, hkey.2.2]
  exact hfound

theorem coverageOf_restoreAttendance (other : DutyDailyCoverage) (db : DutyDb) (plan : CoveragePlan) :
    (restoreAttendance other db).coverageOf plan = db.coverageOf plan := by
  unfold DutyDb.coverageOf
  rw [restoreAttendance_coverages]

/-- The tables and the row from which a technician is proposed. -/
abbrev settled (s : Services) (db : DutyDb) (plan : CoveragePlan) : Current :=
  settle s plan (reservedByPriorDuty db plan) (db, db.coverageOf plan)

theorem reconcilePlan_eq (excludedUserIds : List Nat) : reconcilePlan s plan excludedUserIds db =
    (if (settled s db plan).2.any fun coverage => coverage.status = .active then pure (settled s db plan).2
      else propose s plan (reservedByPriorDuty db plan) excludedUserIds (settled s db plan).2 : DutyM _)
      (settled s db plan).1 := rfl

section
variable {requestedPeriod : Option DutyPeriod} (hplan : coveragePlan db date type requestedPeriod = some plan)
include hplan

theorem reconcileCoverage_unrelieved (h : hasRelievers db plan = false) (excludedUserIds : List Nat) :
    reconcileCoverage s date type excludedUserIds requestedPeriod db = reconcilePlan s plan excludedUserIds db := by
  unfold reconcileCoverage
  rw [reads_bind_ok (a := some (plan, false))]
  rw [hplan, Option.map_some, h]

theorem leaves_unrelieved (h : hasRelievers db plan = false) (excludedUserIds : List Nat) :
    leaves (reconcileCoverage s date type excludedUserIds requestedPeriod) db =
      leaves (reconcilePlan s plan excludedUserIds) db := by
  unfold leaves
  rw [reconcileCoverage_unrelieved hplan h]

end

/-! ## The proposal -/

section
variable {excludedUserIds : List Nat} {current : Option DutyDailyCoverage} {e : HttpException}

theorem propose_error (h : dutyCandidates s db plan reserved excludedUserIds = .error e) :
    propose s plan reserved excludedUserIds current db = .error e db :=
  reads_bind_error (f := fun db => dutyCandidates s db plan reserved excludedUserIds) h

theorem propose_nil (h : dutyCandidates s db plan reserved excludedUserIds = .ok []) :
    propose s plan reserved excludedUserIds current db = .ok none (withdraw current db) :=
  reads_bind_ok (f := fun db => dutyCandidates s db plan reserved excludedUserIds) h

theorem propose_cons {primaryUserId : Nat} {rest : List Nat}
    (h : dutyCandidates s db plan reserved excludedUserIds = .ok (primaryUserId :: rest))
    (hrow : proposed db plan primaryUserId current = .ok saved) :
    propose s plan reserved excludedUserIds current db = .ok (some saved) (writeProposed current saved db) :=
  (reads_bind_ok (f := fun db => dutyCandidates s db plan reserved excludedUserIds) h).trans
    (reads_bind_ok (f := fun db => proposed db plan primaryUserId current) hrow)

theorem propose_collides {primaryUserId : Nat} {rest : List Nat}
    (h : dutyCandidates s db plan reserved excludedUserIds = .ok (primaryUserId :: rest))
    (hrow : proposed db plan primaryUserId current = .error e) :
    propose s plan reserved excludedUserIds current db = .error e db :=
  (reads_bind_ok (f := fun db => dutyCandidates s db plan reserved excludedUserIds) h).trans
    (reads_bind_error (f := fun db => proposed db plan primaryUserId current) hrow)

theorem proposed_beside (h : db.coverageOf plan = some coverage) (primaryUserId : Nat) :
    proposed db plan primaryUserId none = .error databaseError := by
  unfold proposed
  dsimp only
  rw [h]

end

/-- The tables in which the row of a plan was given up. -/
abbrev givenUp (coverage : DutyDailyCoverage) (db : DutyDb) : DutyDb :=
  (restoreAttendance coverage db).saveCoverage { coverage with status := .cancelled }

theorem coverageOf_givenUp (h : db.coverageOf plan = some coverage) :
    (givenUp coverage db).coverageOf plan = some { coverage with status := .cancelled } := by
  have hrow : (restoreAttendance coverage db).coverageOf plan = some coverage := by
    rw [coverageOf_restoreAttendance]
    exact h
  exact coverageOf_saveCoverage hrow rfl rfl

section
variable (h : Considered db plan coverage) (hlost : isLost s db plan.date coverage = true) (excludedUserIds : List Nat)
include h hlost

theorem reconcilePlan_lost : reconcilePlan s plan excludedUserIds db =
    propose s plan (reservedByPriorDuty db plan) excludedUserIds none (givenUp coverage db) := by
  rw [reconcilePlan_eq, settled, h.current, settle_lost h.free hlost]
  rfl

/-- A row that is given up stays, for no other is written beside it. -/
theorem leaves_lost : leaves (reconcilePlan s plan excludedUserIds) db = givenUp coverage db := by
  unfold leaves
  rw [reconcilePlan_lost h hlost]
  cases hcandidates : dutyCandidates s (givenUp coverage db) plan (reservedByPriorDuty db plan) excludedUserIds with
  | error e => rw [propose_error hcandidates]
  | ok candidates =>
    cases candidates with
    | nil =>
      rw [propose_nil hcandidates]
      rfl
    | cons primaryUserId rest =>
      rw [propose_collides hcandidates (proposed_beside (coverageOf_givenUp h.current) primaryUserId)]

end

/-! ## The exceptions -/

/-- The tables with other exceptions. -/
def withExceptions (exceptions : List DutyException) (db : DutyDb) : DutyDb := { db with exceptions }

variable {exceptions : List DutyException}

theorem restoreAttendance_withExceptions (coverage : DutyDailyCoverage) (db : DutyDb) :
    restoreAttendance coverage (withExceptions exceptions db) = withExceptions exceptions (restoreAttendance coverage db) := by
  unfold restoreAttendance
  split
  · split_ifs <;> rfl
  · rfl

theorem handOver_withExceptions (coverage prior : DutyDailyCoverage) (userId : Nat) (date : Int) (db : DutyDb) :
    handOver coverage prior userId date (withExceptions exceptions db) =
      withExceptions exceptions (handOver coverage prior userId date db) := by
  unfold handOver
  split_ifs <;> rfl

theorem endSubstitute_withExceptions (coverage : DutyDailyCoverage) (db : DutyDb) :
    endSubstitute (withExceptions exceptions db, some coverage) =
      (withExceptions exceptions (endSubstitute (db, some coverage)).1, (endSubstitute (db, some coverage)).2) := by
  unfold endSubstitute
  dsimp only
  split_ifs
  · rw [restoreAttendance_withExceptions]
    rfl
  · rfl

theorem settle_withExceptions (hlost : ∀ coverage, db.coverageOf plan = some coverage → keptFor reserved coverage = none →
    isLost s (withExceptions exceptions db) plan.date coverage = isLost s db plan.date coverage) :
    settle s plan reserved (withExceptions exceptions db, db.coverageOf plan) =
      (withExceptions exceptions (settle s plan reserved (db, db.coverageOf plan)).1,
        (settle s plan reserved (db, db.coverageOf plan)).2) := by
  cases hcurrent : db.coverageOf plan with
  | none => rfl
  | some coverage =>
    cases hkept : keptFor reserved coverage with
    | some prior =>
      obtain ⟨userId, huser, hprior⟩ := Option.bind_eq_some_iff.mp hkept
      rw [settle_yields huser hprior, settle_yields huser hprior, handOver_withExceptions]
      rfl
    | none =>
      have hsame := hlost coverage hcurrent hkept
      cases hended : isLost s db plan.date coverage with
      | true =>
        rw [settle_lost hkept hended, settle_lost hkept (hsame.trans hended), restoreAttendance_withExceptions]
        rfl
      | false =>
        rw [settle_kept hkept hended, settle_kept hkept (hsame.trans hended), endSubstitute_withExceptions]

/-! ## The reconciliation with other exceptions -/

/-- The logs and the exceptions of other tables. -/
structure SameLogs (db db' : DutyDb) : Prop where
  exceptions : db'.exceptions = db.exceptions
  assignments : db'.assignments = db.assignments

theorem SameLogs.trans {db' db'' : DutyDb} (h : SameLogs db db') (h' : SameLogs db' db'') : SameLogs db db'' :=
  ⟨h'.exceptions.trans h.exceptions, h'.assignments.trans h.assignments⟩

theorem SameLogs.getRotation {db' : DutyDb} (h : SameLogs db db') : s.getRotation db' = s.getRotation db := by
  funext date type
  unfold Services.getRotation Services.daysSince
  rw [h.exceptions, h.assignments]

theorem sameLogs_restoreAttendance (coverage : DutyDailyCoverage) (db : DutyDb) : SameLogs db (restoreAttendance coverage db) := by
  obtain ⟨_, h⟩ := restoreAttendance_eq coverage db
  rw [h]
  exact ⟨rfl, rfl⟩

theorem sameLogs_givenUp (coverage saved : DutyDailyCoverage) (db : DutyDb) :
    SameLogs db ((restoreAttendance coverage db).saveCoverage saved) :=
  (sameLogs_restoreAttendance coverage db).trans ⟨rfl, rfl⟩

theorem sameLogs_yieldToPriorDuty (c : Current) : SameLogs c.1 (yieldToPriorDuty reserved date c).1 := by
  unfold yieldToPriorDuty handOver
  split
  · exact ⟨rfl, rfl⟩
  · split
    · exact ⟨rfl, rfl⟩
    · split
      · exact ⟨rfl, rfl⟩
      · dsimp only
        split_ifs <;> exact ⟨rfl, rfl⟩

theorem sameLogs_endLost (c : Current) : SameLogs c.1 (endLost s date c).1 := by
  unfold endLost
  split
  · exact ⟨rfl, rfl⟩
  · split_ifs
    · exact sameLogs_givenUp _ _ _
    · exact ⟨rfl, rfl⟩

theorem sameLogs_endSubstitute (c : Current) : SameLogs c.1 (endSubstitute c).1 := by
  unfold endSubstitute
  split
  · exact ⟨rfl, rfl⟩
  · split_ifs
    · exact sameLogs_givenUp _ _ _
    · exact ⟨rfl, rfl⟩

theorem sameLogs_settle (c : Current) : SameLogs c.1 (settle s plan reserved c).1 :=
  ((sameLogs_yieldToPriorDuty c).trans (sameLogs_endLost _)).trans (sameLogs_endSubstitute _)

/-- An exception takes a technician out of the rotation of a duty. -/
def excludes (date : Int) (type : DutyType) (userId : Nat) (exception : DutyException) : Bool :=
  exception.exceptionDate = date && exception.userId = userId && exception.dutyType.all fun own => own = type

/-- Other exceptions take nobody else out of the rotation. -/
def SameRotation (exceptions others : List DutyException) (date : Int) (type : DutyType) : Prop :=
  ∀ userId, exceptions.any (excludes date type userId) = others.any (excludes date type userId)

theorem getRotation_withExceptions (h : SameRotation exceptions db.exceptions date type) :
    s.getRotation (withExceptions exceptions db) date type = s.getRotation db date type := by
  have hrow (userId : Nat) := h userId
  unfold excludes at hrow
  unfold Services.getRotation withExceptions
  simp only [hrow]
  rfl

theorem dutyCandidates_withExceptions (h : SameRotation exceptions db.exceptions plan.date plan.type)
    (excludedUserIds : List Nat) : dutyCandidates s (withExceptions exceptions db) plan reserved excludedUserIds =
      dutyCandidates s db plan reserved excludedUserIds := by
  unfold dutyCandidates
  rw [getRotation_withExceptions h]
  rfl

theorem withdraw_withExceptions (current : Option DutyDailyCoverage) (db : DutyDb) :
    withdraw current (withExceptions exceptions db) = withExceptions exceptions (withdraw current db) := by
  unfold withdraw
  split
  · rfl
  · split_ifs <;> rfl

theorem writeProposed_withExceptions (current : Option DutyDailyCoverage) (coverage : DutyDailyCoverage) (db : DutyDb) :
    writeProposed current coverage (withExceptions exceptions db) =
      withExceptions exceptions (writeProposed current coverage db) := by
  unfold writeProposed
  split <;> rfl

theorem carries_propose (h : SameRotation exceptions db.exceptions plan.date plan.type) (excludedUserIds : List Nat)
    (current : Option DutyDailyCoverage) :
    Carries (withExceptions exceptions) (propose s plan reserved excludedUserIds current) db := by
  refine carries_reads_bind (dutyCandidates_withExceptions h excludedUserIds) fun candidates _ => ?_
  cases candidates with
  | nil =>
    refine carries_bind (carries_modify (withdraw_withExceptions current db)) fun _ _ _ => ?_
    exact carries_pure none
  | cons primaryUserId rest =>
    refine carries_reads_bind rfl fun coverage _ => ?_
    refine carries_bind (carries_modify (writeProposed_withExceptions current coverage db)) fun _ _ _ => ?_
    exact carries_pure (some coverage)

/-- The considered row is lost with other exceptions where it is lost without. -/
def SameLoss (s : Services) (exceptions : List DutyException) (db : DutyDb) (plan : CoveragePlan) : Prop :=
  ∀ coverage, Considered db plan coverage →
    isLost s (withExceptions exceptions db) plan.date coverage = isLost s db plan.date coverage

theorem carries_reconcilePlan (hrotation : SameRotation exceptions db.exceptions plan.date plan.type)
    (hlost : SameLoss s exceptions db plan) (hunrelieved : hasRelievers db plan = false) (excludedUserIds : List Nat) :
    Carries (withExceptions exceptions) (reconcilePlan s plan excludedUserIds) db := by
  refine carries_reads_bind rfl fun reserved hreserved => ?_
  cases hreserved
  have hsettle : settle s plan (reservedByPriorDuty db plan) (withExceptions exceptions db, db.coverageOf plan) = _ :=
    settle_withExceptions fun coverage hcurrent hfree => hlost coverage ⟨hunrelieved, hcurrent, hfree⟩
  refine carries_bind (carries_modifyGet ?_) fun current db' hsettled => ?_
  · show ((settle s plan _ (withExceptions exceptions db, db.coverageOf plan)).2,
      (settle s plan _ (withExceptions exceptions db, db.coverageOf plan)).1) = _
    rw [hsettle]
  · cases hsettled
    by_cases hactive : ((settle s plan (reservedByPriorDuty db plan) (db, db.coverageOf plan)).2.any
        fun coverage => coverage.status = .active) = true
    · rw [if_pos hactive]
      exact carries_pure _
    · rw [if_neg hactive]
      refine carries_propose ?_ excludedUserIds _
      rw [(sameLogs_settle _).exceptions]
      exact hrotation

theorem coveragePlan_eq_some {requestedPeriod : Option DutyPeriod}
    (h : coveragePlan db date type requestedPeriod = some plan) : plan.date = date ∧ plan.type = type := by
  unfold coveragePlan at h
  dsimp only at h
  split_ifs at h with hod
  · cases h
    exact ⟨rfl, rfl⟩
  · split at h
    · cases h
    · split_ifs at h
      cases h
      exact ⟨rfl, rfl⟩

theorem replaceByRelievers_withExceptions (current : Option DutyDailyCoverage) (db : DutyDb) :
    replaceByRelievers current (withExceptions exceptions db) =
      withExceptions exceptions (replaceByRelievers current db) := by
  unfold replaceByRelievers
  split
  · rfl
  · rw [restoreAttendance_withExceptions]
    rfl

/-- Other exceptions are carried through where neither the rotation nor the considered row tells them apart. -/
theorem carries_reconcileCoverage (excludedUserIds : List Nat) (requestedPeriod : Option DutyPeriod)
    (hrotation : SameRotation exceptions db.exceptions date type)
    (hlost : ∀ plan, coveragePlan db date type requestedPeriod = some plan → SameLoss s exceptions db plan) :
    Carries (withExceptions exceptions) (reconcileCoverage s date type excludedUserIds requestedPeriod) db := by
  refine carries_reads_bind rfl fun read hread => ?_
  cases hplan : coveragePlan db date type requestedPeriod with
  | none =>
    rw [hplan] at hread
    cases hread
    exact carries_pure none
  | some plan =>
    rw [hplan, Option.map_some] at hread
    obtain ⟨hdate, htype⟩ := coveragePlan_eq_some hplan
    cases hrelievers : hasRelievers db plan with
    | true =>
      rw [hrelievers] at hread
      cases hread
      refine carries_bind (carries_modify ?_) fun _ _ _ => carries_pure none
      exact replaceByRelievers_withExceptions (db.coverageOf plan) db
    | false =>
      rw [hrelievers] at hread
      cases hread
      refine carries_reconcilePlan ?_ (hlost plan hplan) hrelievers excludedUserIds
      rw [hdate, htype]
      exact hrotation

end ComplianceHub.Duty
