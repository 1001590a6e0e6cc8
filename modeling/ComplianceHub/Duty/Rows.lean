import ComplianceHub.Duty.Settled

/-!
# What every row of a coverage has

* `RowRule R` : each way in which the service writes the row of a coverage keeps `R`;
* `keeps_rows_run` : so does every operation, for all the rows; `rows_of_run` : so they have it after every run;
* `Held` : what an active row, a pending row and an override tell of the rest of the row (`held_of_run`).
-/

namespace ComplianceHub.Duty

open ComplianceHub.Lib

/-- What is kept by each way in which a row is written. -/
structure RowRule (R : DutyDailyCoverage → Prop) : Prop where
  relieved {coverage : DutyDailyCoverage} : R coverage → R (cancelledForRelievers coverage)
  yields {coverage : DutyDailyCoverage} : R coverage → R (yielded coverage)
  cancels {coverage : DutyDailyCoverage} : R coverage → R { coverage with status := .cancelled }
  unsubstituted {coverage : DutyDailyCoverage} : R coverage → coverage.status = .active → R (withoutSubstitute coverage)
  pending (id : Nat) (plan : CoveragePlan) (primaryUserId : Nat) : R (pendingCoverage id plan primaryUserId)
  activates {coverage : DutyDailyCoverage} : R coverage → coverage.status = .intervention_required →
    ∀ (userId : Nat) (attendance : TechAttendance), attendance.status = .present → R (activated coverage userId attendance)
  completes {coverage : DutyDailyCoverage} : R coverage → ∀ releasedAt : Option Int,
    R { coverage with status := .completed, releasedAt }
  releases {coverage : DutyDailyCoverage} : R coverage → ∀ releasedAt : Option Int,
    R { coverage with status := .released, releasedAt }
  reinstates {coverage : DutyDailyCoverage} : R coverage → coverage.status = .active → R (reinstated coverage)

def AllRows (R : DutyDailyCoverage → Prop) (db : DutyDb) : Prop := ∀ coverage ∈ db.coverages, R coverage

variable {R : DutyDailyCoverage → Prop} {s : Services} {db db' : DutyDb} {plan : CoveragePlan}
variable {coverage saved : DutyDailyCoverage}

theorem AllRows.of_eq (h : AllRows R db) (hsame : db'.coverages = db.coverages) : AllRows R db' := by
  intro row hrow
  rw [hsame] at hrow
  exact h row hrow

theorem AllRows.saveCoverage (h : AllRows R db) (hsaved : R saved) : AllRows R (db.saveCoverage saved) := by
  intro row hrow
  rcases mem_saveCoverage hrow with rfl | ⟨hrow, -⟩
  · exact hsaved
  · exact h row hrow

theorem AllRows.restoreAttendance (h : AllRows R db) (coverage : DutyDailyCoverage) :
    AllRows R (restoreAttendance coverage db) :=
  h.of_eq (restoreAttendance_coverages coverage db)

theorem recordReliever_coverages (reservation : DutyMeetingReservation) (createdById : Nat) (remarks : String)
    (reliever : DutyMeetingReliever) (db : DutyDb) :
    (recordReliever reservation createdById remarks reliever db).coverages = db.coverages := by
  unfold recordReliever
  split_ifs <;> rfl

theorem foldl_coverages {α : Type} {f : DutyDb → α → DutyDb} (h : ∀ db item, (f db item).coverages = db.coverages)
    (items : List α) (db : DutyDb) : (items.foldl f db).coverages = db.coverages := by
  induction items generalizing db with
  | nil => rfl
  | cons item rest ih => exact (ih (f db item)).trans (h db item)

/-- All rows, and that in memory. -/
def CurrentRows (R : DutyDailyCoverage → Prop) (c : Current) : Prop :=
  AllRows R c.1 ∧ ∀ coverage, c.2 = some coverage → R coverage

theorem currentRows_coverageOf (h : AllRows R db) (plan : CoveragePlan) : CurrentRows R (db, db.coverageOf plan) :=
  ⟨h, fun _ hcurrent => h _ (List.mem_of_find?_eq_some hcurrent)⟩

/-! ## Reconciliation -/

section
variable (hR : RowRule R)
include hR

theorem rows_replaceByRelievers (h : AllRows R db) : AllRows R (replaceByRelievers (db.coverageOf plan) db) := by
  unfold replaceByRelievers
  split
  · exact h
  · rename_i coverage hcurrent
    exact (h.restoreAttendance coverage).saveCoverage (hR.relieved ((currentRows_coverageOf h plan).2 coverage hcurrent))

theorem rows_yieldToPriorDuty (reserved : List (Nat × DutyDailyCoverage)) (date : Int) {c : Current}
    (h : CurrentRows R c) : CurrentRows R (yieldToPriorDuty reserved date c) := by
  obtain ⟨db, current⟩ := c
  unfold yieldToPriorDuty
  split
  · exact h
  · rename_i coverage hcurrent
    have hyielded := hR.yields (h.2 coverage hcurrent)
    split
    · exact h
    · split
      · exact h
      · refine ⟨AllRows.saveCoverage (h.1.of_eq (handOver_coverages _ _ _ _ _)) hyielded, fun other hother => ?_⟩
        cases hother
        exact hyielded

theorem rows_endLost (date : Int) {c : Current} (h : CurrentRows R c) : CurrentRows R (endLost s date c) := by
  obtain ⟨db, current⟩ := c
  unfold endLost
  split
  · exact h
  · rename_i coverage hcurrent
    split_ifs
    · refine ⟨(h.1.restoreAttendance coverage).saveCoverage (hR.cancels (h.2 coverage hcurrent)), fun other hother => ?_⟩
      cases hother
    · exact h

theorem rows_endSubstitute {c : Current} (h : CurrentRows R c) : CurrentRows R (endSubstitute c) := by
  obtain ⟨db, current⟩ := c
  unfold endSubstitute
  split
  · exact h
  · rename_i coverage hcurrent
    split_ifs with hactive
    · have hended := hR.unsubstituted (h.2 coverage hcurrent) hactive.1
      refine ⟨(h.1.restoreAttendance coverage).saveCoverage hended, fun other hother => ?_⟩
      cases hother
      exact hended
    · exact h

theorem rows_withdraw {current : Option DutyDailyCoverage} (h : CurrentRows R (db, current)) :
    AllRows R (withdraw current db) := by
  unfold withdraw
  split
  · exact h.1
  · rename_i coverage
    split_ifs
    · exact h.1.saveCoverage (hR.cancels (h.2 coverage rfl))
    · exact h.1

theorem rows_writeProposed {current : Option DutyDailyCoverage} {primaryUserId : Nat} (h : AllRows R db)
    (hproposed : proposed db plan primaryUserId current = .ok coverage) : AllRows R (writeProposed current coverage db) := by
  have hpending : R coverage := by
    unfold proposed at hproposed
    split at hproposed
    · cases hproposed
      exact hR.pending _ _ _
    · split at hproposed
      · cases hproposed
      · cases hproposed
        exact hR.pending _ _ _
  unfold writeProposed
  split
  · exact h.saveCoverage hpending
  · intro row hrow
    rcases List.mem_append.mp hrow with hrow | hrow
    · exact h row hrow
    · rw [List.mem_singleton.mp hrow]
      exact hpending

theorem keeps_rows_propose (reserved : List (Nat × DutyDailyCoverage)) (excludedUserIds : List Nat)
    (current : Option DutyDailyCoverage) : Triple (fun db => CurrentRows R (db, current))
      (propose s plan reserved excludedUserIds current) (fun _ => AllRows R) (AllRows R) := by
  refine triple_bind (Q := fun _ db => CurrentRows R (db, current)) (triple_reads (fun _ _ h _ => h) fun _ h => h.1)
    fun candidates => ?_
  cases candidates with
  | nil =>
    refine triple_bind (Q := fun _ => AllRows R) (triple_modify fun _ h => rows_withdraw hR h) fun _ => ?_
    exact triple_pure fun _ h => h
  | cons primaryUserId rest =>
    refine triple_bind (Q := fun coverage db => AllRows R db ∧ proposed db plan primaryUserId current = .ok coverage)
      (triple_reads (fun _ _ h hproposed => ⟨h.1, hproposed⟩) fun _ h => h.1) fun coverage => ?_
    refine triple_bind (Q := fun _ => AllRows R) (triple_modify fun _ h => rows_writeProposed hR h.1 h.2) fun _ => ?_
    exact triple_pure fun _ h => h

theorem keeps_rows_reconcilePlan (excludedUserIds : List Nat) : Keeps (AllRows R) (reconcilePlan s plan excludedUserIds) := by
  refine triple_bind (Q := fun _ => AllRows R) (triple_reads (fun _ _ h _ => h) fun _ h => h) fun reserved => ?_
  refine triple_bind (Q := fun current db => CurrentRows R (db, current)) (triple_modifyGet fun db h => ?_) fun current => ?_
  · exact rows_endSubstitute hR (rows_endLost hR _ (rows_yieldToPriorDuty hR reserved _ (currentRows_coverageOf h plan)))
  · split_ifs
    · exact triple_pure fun _ h => h.1
    · exact keeps_rows_propose hR reserved excludedUserIds current

theorem keeps_rows_reconcileCoverage (date : Int) (type : DutyType) (excludedUserIds : List Nat)
    (requestedPeriod : Option DutyPeriod) :
    Keeps (AllRows R) (reconcileCoverage s date type excludedUserIds requestedPeriod) := by
  refine triple_bind (Q := fun _ => AllRows R) (triple_reads (fun _ _ h _ => h) fun _ h => h) fun read => ?_
  match read with
  | none => exact triple_pure fun _ h => h
  | some (plan, true) =>
    refine triple_bind (Q := fun _ => AllRows R) (triple_modify fun _ h => rows_replaceByRelievers hR h) fun _ => ?_
    exact triple_pure fun _ h => h
  | some (plan, false) => exact keeps_rows_reconcilePlan hR excludedUserIds

theorem keeps_rows_reconcileDuty (date : Int) (type : DutyType) (requestedPeriod : Option DutyPeriod) :
    Keeps (AllRows R) (reconcileDuty s date type requestedPeriod) :=
  triple_bind (keeps_rows_reconcileCoverage hR date type [] requestedPeriod) fun _ => triple_pure fun _ h => h

theorem keeps_rows_reconcileToday : Keeps (AllRows R) (reconcileToday s) := by
  unfold reconcileToday
  split_ifs
  · exact triple_pure fun _ h => h
  · refine triple_bind (Q := fun _ => AllRows R) (triple_modify fun _ h => h.of_eq rfl) fun _ => ?_
    exact Keeps.forM (fun type => keeps_rows_reconcileDuty hR s.today type none) DUTY_PRIORITY

theorem keeps_rows_reconcileNext (date : Int) (type : DutyType) : Keeps (AllRows R) (reconcileNext s date type) := by
  refine triple_bind (Q := fun _ => AllRows R) (triple_reads (fun _ _ h _ => h) fun _ h => h) fun next => ?_
  match next with
  | none => exact triple_pure fun _ h => h
  | some next => exact keeps_rows_reconcileDuty hR date type (some next.period)

/-! ## Operations -/

theorem keeps_rows_activateCoverage (actor : Actor) (id userId : Nat) :
    Keeps (AllRows R) (activateCoverage s actor id userId) := by
  refine triple_bind (Q := fun read db => AllRows R db ∧ activatable s db actor id userId = .ok read)
    (triple_reads (fun _ _ h hread => ⟨h, hread⟩) fun _ h => h) fun read => ?_
  refine triple_modify fun db h => ?_
  have hread := activatable_eq_ok h.2
  exact AllRows.saveCoverage (h.1.of_eq rfl) (hR.activates (h.1 _ hread.mem) hread.status userId _ hread.present)

theorem keeps_rows_releaseCoverage (actor : Actor) (id : Nat) : Keeps (AllRows R) (releaseCoverage s actor id) := by
  refine triple_bind (Q := fun coverage db => AllRows R db ∧ R coverage ∧ coverage.status = .active)
    (triple_reads (fun db coverage h hread => ?_) fun _ h => h) fun coverage => ?_
  · obtain ⟨hmem, -, hactive⟩ := releasable_eq_ok hread
    exact ⟨h, h coverage hmem, hactive⟩
  split_ifs
  · refine triple_bind (Q := fun _ db => AllRows R db ∧ R coverage ∧ coverage.status = .active)
      (triple_modify fun _ h => ⟨(h.1.restoreAttendance _).saveCoverage (hR.releases h.2.1 _), h.2⟩) fun _ => ?_
    refine triple_bind (Q := fun _ db => AllRows R db ∧ R coverage ∧ coverage.status = .active)
      (triple_attempt fun db h => ?_) fun replacement => ?_
    · have hkeeps := keeps_rows_reconcileCoverage (s := s) hR coverage.dutyDate coverage.dutyType
        coverage.assignedUserId.toList none db h.1
      revert hkeeps
      unfold Satisfies
      split
      · exact fun hrows => ⟨hrows, h.2⟩
      · exact fun hrows => ⟨hrows, h.2⟩
    split_ifs
    · exact triple_modify fun _ h => h.1.of_eq (recordCompletedCoverage_coverages coverage _)
    · refine triple_bind (Q := fun _ => AllRows R) (triple_modify fun db h => ?_) fun _ => ?_
      · refine AllRows.saveCoverage (h.1.of_eq ?_) (hR.reinstates h.2.1 h.2.2)
        exact attendDuty_coverages coverage db
      · exact triple_reads (fun _ _ h _ => h) fun _ h => h
  · refine triple_bind (Q := fun _ => AllRows R) (triple_modify fun db h => ?_) fun _ => ?_
    · refine AllRows.of_eq ?_ (completeMeeting_coverages coverage.reservationId _)
      have hrecorded := h.1.of_eq (recordCompletedCoverage_coverages coverage db)
      exact (hrecorded.restoreAttendance coverage).saveCoverage (hR.completes h.2.1 _)
    · exact keeps_rows_reconcileNext hR _ _

theorem keeps_rows_completeReservation (actor : Actor) (id : Nat) : Keeps (AllRows R) (completeReservation s actor id) := by
  refine triple_bind (Q := fun _ => AllRows R) (triple_reads (fun _ _ h _ => h) fun _ h => h) fun found => ?_
  match found with
  | none => exact triple_pure fun _ h => h
  | some reservation =>
    refine triple_bind (Q := fun _ => AllRows R) (triple_modify fun db h => h.of_eq ?_) fun _ => ?_
    · exact foldl_coverages (fun db reliever => recordReliever_coverages _ _ _ reliever db) _ db
    · exact keeps_rows_reconcileNext hR _ _

theorem keeps_rows_saveReservation (actor : Actor) (body : ReservationBody) (id : Option Nat) :
    Keeps (AllRows R) (saveReservation s actor body id) := by
  refine triple_bind (Q := fun _ => AllRows R) (triple_reads (fun _ _ h _ => h) fun _ h => h) fun write => ?_
  match write with
  | .purpose row => exact triple_modify fun _ h => h.of_eq rfl
  | .schedule existing row =>
    refine triple_bind (Q := fun _ => AllRows R) (triple_modify fun db h => h.of_eq ?_) fun _ => ?_
    · unfold putMeeting
      split
      · rfl
      · split_ifs <;> rfl
    · split_ifs
      · exact keeps_rows_reconcileToday hR
      · exact triple_pure fun _ h => h

theorem keeps_rows_replaceMeetingRelievers (actor : Actor) (reservationId : Nat) (userIds : List Nat) (reason : String) :
    Keeps (AllRows R) (replaceMeetingRelievers s actor reservationId userIds reason) := by
  refine triple_bind (Q := fun _ => AllRows R) (triple_reads (fun _ _ h _ => h) fun _ h => h) fun read => ?_
  refine triple_bind (Q := fun _ => AllRows R) (triple_modify fun _ h => h.of_eq rfl) fun _ => ?_
  split_ifs
  · exact keeps_rows_reconcileDuty hR _ _ none
  · exact triple_pure fun _ h => h

theorem keeps_rows_clearMeetingRelievers (actor : Actor) (reservationId : Nat) :
    Keeps (AllRows R) (clearMeetingRelievers s actor reservationId) := by
  refine triple_bind (Q := fun _ => AllRows R) (triple_reads (fun _ _ h _ => h) fun _ h => h) fun reservation => ?_
  refine triple_bind (Q := fun _ => AllRows R) (triple_modify fun _ h => h.of_eq rfl) fun _ => ?_
  split_ifs
  · exact keeps_rows_reconcileDuty hR _ _ none
  · exact triple_pure fun _ h => h

theorem keeps_rows_saveException (actor : Actor) (body : ExceptionBody) (id : Option Nat) :
    Keeps (AllRows R) (saveException s actor body id) := by
  refine triple_bind (Q := fun _ => AllRows R) (triple_reads (fun _ _ h _ => h) fun _ h => h) fun exception => ?_
  refine triple_bind (Q := fun _ => AllRows R) (triple_modify fun _ h => h.of_eq ?_) fun _ => ?_
  · unfold putException
    split_ifs <;> rfl
  · split_ifs
    · exact keeps_rows_reconcileToday hR
    · exact triple_pure fun _ h => h

theorem keeps_rows_deleteException (actor : Actor) (id : Nat) : Keeps (AllRows R) (deleteException s actor id) := by
  refine triple_bind (Q := fun _ => AllRows R) (triple_reads (fun _ _ h _ => h) fun _ h => h) fun existing => ?_
  refine triple_bind (Q := fun _ => AllRows R) (triple_modify fun _ h => h.of_eq rfl) fun _ => ?_
  split_ifs
  · exact keeps_rows_reconcileToday hR
  · exact triple_pure fun _ h => h

theorem rows_finalizeCoverage (h : AllRows R db) (hcoverage : R coverage) : AllRows R (finalizeCoverage db coverage) := by
  unfold finalizeCoverage
  split_ifs
  · refine AllRows.restoreAttendance (AllRows.of_eq ?_ (completeMeeting_coverages _ _)) coverage
    exact (h.of_eq (recordCompletedCoverage_coverages coverage db)).saveCoverage (hR.completes hcoverage coverage.releasedAt)
  · exact h
  · exact h.restoreAttendance coverage

theorem keeps_rows_finalizeToday : Keeps (AllRows R) (finalizeToday s) := by
  unfold finalizeToday
  split_ifs
  · exact triple_pure fun _ h => h
  · refine triple_bind (Q := fun _ => AllRows R) (triple_modify fun db h => h.of_eq ?_) fun _ => triple_modify fun db h => ?_
    · exact foldl_coverages (fun db entry => recordReliever_coverages _ _ _ _ db) _ db
    · have hitems : ∀ (items : List DutyDailyCoverage) (a : DutyDb), AllRows R a → (∀ item ∈ items, R item) →
          AllRows R (items.foldl finalizeCoverage a) := by
        intro items
        induction items with
        | nil => exact fun _ ha _ => ha
        | cons item rest ih =>
          intro a ha hall
          exact ih _ (rows_finalizeCoverage hR ha (hall item List.mem_cons_self)) fun other hother =>
            hall other (List.mem_cons_of_mem _ hother)
      exact hitems _ db h fun item hitem => h item (List.mem_filter.mp hitem).1

theorem keeps_rows_run (op : Operation) : Keeps (AllRows R) (op.run s) := by
  cases op with
  | reconcileToday => exact keeps_rows_reconcileToday hR
  | activateCoverage actor id userId => exact keeps_rows_activateCoverage hR actor id userId
  | skipCoverage actor id userId =>
    exact triple_bind (Q := fun _ => AllRows R) (triple_reads (fun _ _ h _ => h) fun _ h => h) fun _ =>
      keeps_rows_saveException hR _ _ _
  | releaseCoverage actor id => exact keeps_rows_releaseCoverage hR actor id
  | completeReservation actor id => exact keeps_rows_completeReservation hR actor id
  | saveReservation actor body id => exact keeps_rows_saveReservation hR actor body id
  | deleteReservation actor id =>
    refine triple_bind (Q := fun _ => AllRows R) (triple_reads (fun _ _ h _ => h) fun _ h => h) fun found => ?_
    refine triple_modify fun db h => h.of_eq ?_
    unfold deleteMeeting
    split <;> rfl
  | replaceMeetingRelievers actor reservationId userIds reason => exact keeps_rows_replaceMeetingRelievers hR _ _ _ _
  | clearMeetingRelievers actor reservationId => exact keeps_rows_clearMeetingRelievers hR _ _
  | saveException actor body id => exact keeps_rows_saveException hR actor body id
  | deleteException actor id => exact keeps_rows_deleteException hR actor id
  | finalizeToday => exact keeps_rows_finalizeToday hR

/-- What each way of writing a row keeps, every row has after every run. -/
theorem rows_of_run {history : List (Transition DutyDb Event)} (h : Run duties history db) : AllRows R db := by
  refine Run.always (I := AllRows R) (P := fun _ => True) ?_ (fun db e db' hrows hstep _ => ?_) h fun _ _ => trivial
  · rintro db ⟨-, hnone⟩ row hrow
    rw [hnone] at hrow
    cases hrow
  · cases hstep with
    | attendance _ => exact hrows
    | operation s op => exact (keeps_rows_run hR op).leaves hrows

end

/-! ## What a status tells -/

/-- What the status of a row and its override tell of the rest of it. -/
structure Held (coverage : DutyDailyCoverage) : Prop where
  active : coverage.status = .active → coverage.attendanceOverridden = true ∧ coverage.releasedAt = none
  pending : coverage.status = .intervention_required → coverage.assignedUserId = none ∧ coverage.releasedAt = none ∧
    coverage.attendanceOverridden = false
  overrides : coverage.attendanceOverridden = true →
    coverage.assignedUserId.isSome = true ∧ coverage.previousAttendanceStatus = some .present

theorem rowRule_held : RowRule Held where
  relieved _ := ⟨fun h => (by cases h), fun h => (by cases h), fun h => (by cases h)⟩
  yields _ := ⟨fun h => (by cases h), fun h => (by cases h), fun h => (by cases h)⟩
  cancels h := ⟨fun h => (by cases h), fun h => (by cases h), h.overrides⟩
  unsubstituted h hactive := ⟨fun h => (by cases h), fun _ => ⟨rfl, (h.active hactive).2, rfl⟩, fun h => (by cases h)⟩
  pending _ _ _ := ⟨fun h => (by cases h), fun _ => ⟨rfl, rfl, rfl⟩, fun h => (by cases h)⟩
  activates h hpending userId attendance hpresent :=
    ⟨fun _ => ⟨rfl, (h.pending hpending).2.1⟩, fun h => (by cases h), fun _ => ⟨rfl, congrArg some hpresent⟩⟩
  completes h _ := ⟨fun h => (by cases h), fun h => (by cases h), h.overrides⟩
  releases h _ := ⟨fun h => (by cases h), fun h => (by cases h), h.overrides⟩
  reinstates h hactive := ⟨fun _ => ⟨(h.active hactive).1, rfl⟩, fun h => (by cases h), h.overrides⟩

theorem held_of_run {history : List (Transition DutyDb Event)} (h : Run duties history db) : AllRows Held db :=
  rows_of_run rowRule_held h

end ComplianceHub.Duty
