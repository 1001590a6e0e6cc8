import ComplianceHub.Duty.EndOfDay

/-!
# Duty that is rendered

* `dutyDay` : the runs of one day, of the operations on its coverages, while the other services write the attendance;
* `onward_run` : what each operation keeps; `log_of_release`, `log_of_finalize` : the logs that an operation leaves;
* `Rendered` : what a run has logged and completed;
* `EndsWell` : nobody could take over an OD that is completed, and the day ends once;
* `rendered_duty_is_logged_once` : so it is after every run whose steps meet the condition;
* `od_proposed_after_the_day` : at the minute of the clock-out the day has ended and attendance is eligible still.
-/

namespace ComplianceHub.Duty

open ComplianceHub.Lib

variable {s : Services} {db db' x : DutyDb} {coverage row : DutyDailyCoverage} {actor : Actor} {id : Nat} {day : Int}

/-- An operation on the coverages of a day. -/
def IsOfDay : Operation → Prop
  | .reconcileToday | .activateCoverage _ _ _ | .releaseCoverage _ _ | .completeReservation _ _ | .finalizeToday => True
  | _ => False

/-- What happens on a day. -/
def OnDay (day : Int) : Event → Prop
  | .attendance _ => True
  | .operation s op => s.today = day ∧ IsOfDay op

/-- The tables as the day starts: none of its duties is covered, and nothing is logged twice. -/
structure Starts (day : Int) (db : DutyDb) : Prop where
  places : Day day db
  logged : Logged db
  uncovered : ∀ coverage ∈ db.coverages, coverage.dutyDate ≠ day

def dutyDay (day : Int) : System DutyDb Event where
  init := Starts day
  step db e db' := OnDay day e ∧ DutyStep db e db'

structure Rendered (day : Int) (history : List (Transition DutyDb Event)) (db : DutyDb) : Prop where
  logged : Logged db
  released : ∀ e ∈ history, ∀ s actor id, e.label = .operation s (.releaseCoverage actor id) →
    raises (releaseCoverage s actor id) e.before = none → ∀ coverage ∈ e.before.coverages, coverage.id = id →
    ∀ userId, coverage.assignedUserId = some userId → (coverageLogs db id userId).length = 1
  finalized : ∀ e ∈ history, ∀ s, e.label = .operation s .finalizeToday → s.officeEnd ≤ s.currentTimeMinutes →
    ∀ coverage ∈ e.before.coverages, coverage.dutyDate = day → coverage.status = .active →
    dutyOccurred e.before coverage = true → ∀ userId, coverage.assignedUserId = some userId →
    (coverageLogs db coverage.id userId).length = 1
  again : ∀ e ∈ history, ∀ s, e.label = .operation s .finalizeToday → s.officeEnd ≤ s.currentTimeMinutes →
    ∀ s' : Services, s'.today = s.today → hasTickets s' = hasTickets s → leaves (finalizeToday s') e.after = e.after
  completed : ∀ e ∈ history, ∀ coverage ∈ e.before.coverages, coverage.dutyDate = day → coverage.status = .completed →
    coverage ∈ db.coverages

/-- Nobody could take over an OD that is completed, the day ends once, and the technician of another day's coverage does
not relieve its meeting. -/
def EndsWell (day : Int) (db : DutyDb) : Event → Prop
  | .operation s .reconcileToday => s.officeStart ≤ s.currentTimeMinutes →
      (∃ coverage ∈ db.coverages, coverage.dutyDate = day ∧ coverage.dutyType = .OD ∧ coverage.status = .completed) →
      ∀ userId, ¬ IsCandidate s (restoreOrphanedDutyAttendance s.today db) (odPlan s.today) [] [] userId
  | .operation s .finalizeToday => s.officeEnd ≤ s.currentTimeMinutes → EndsOnce s db
  | .operation s (.releaseCoverage actor id) => ∀ coverage, releasable s db actor id = .ok coverage →
      coverage.dutyDate ≠ day → IsApart db coverage
  | _ => True

/-! ## Reconciliation -/

theorem isCandidate_of_mem {plan : CoveragePlan} {reserved : List (Nat × DutyDailyCoverage)} {excludedUserIds candidates : List Nat}
    (h : dutyCandidates s db plan reserved excludedUserIds = .ok candidates) {userId : Nat} (hmem : userId ∈ candidates) :
    IsCandidate s db plan reserved excludedUserIds userId := by
  have hmember : HasMember s db plan.date plan.type := by
    unfold dutyCandidates at h
    obtain ⟨_, hrotation, -⟩ := bind_eq_ok.mp h
    obtain ⟨_, hin⟩ := List.exists_mem_of_ne_nil _ (check_eq_ok.mp hrotation)
    obtain ⟨member, hrow, -⟩ := List.mem_map.mp hin
    obtain ⟨hrow, hfree⟩ := List.mem_filter.mp hrow
    exact ⟨member, hrow, by simpa using hfree⟩
  obtain ⟨others, hothers, hiff⟩ := dutyCandidates_eq reserved excludedUserIds hmember
  cases h.symm.trans hothers
  exact (hiff userId).mp hmem

theorem reserved_of_od (db : DutyDb) (date : Int) : reservedByPriorDuty db (odPlan date) = [] := by
  unfold reservedByPriorDuty
  rw [List.filter_eq_nil_iff.mpr]
  · rfl
  · intro row _ hprior
    cases hprior

theorem plan_of_od (db : DutyDb) (date : Int) : coveragePlan db date .OD none = some (odPlan date) := rfl

/-- An OD that is completed stays, where nobody could take it over. -/
theorem leaves_od_completed (hdb : Sane db) (hmem : row ∈ db.coverages) (hod : row.dutyType = .OD)
    (hcompleted : row.status = .completed)
    (hnone : ∀ userId, ¬ IsCandidate s db (odPlan row.dutyDate) [] [] userId) :
    leaves (reconcileCoverage s row.dutyDate .OD [] none) db = db := by
  have hkey : row.key = (odPlan row.dutyDate).key := by
    rw [DutyDailyCoverage.key, ((hdb.regular row hmem).od hod).2, hod]
    rfl
  have hcurrent : db.coverageOf (odPlan row.dutyDate) = some row := coverageOf_of_key hdb.keyed hmem hkey
  have hfree : keptFor [] row = none := by
    unfold keptFor coverageCandidateUserId
    rw [hcompleted]
    rfl
  have hstays : isLost s db row.dutyDate row = false := by
    unfold isLost
    rw [hcompleted]
    split <;> rfl
  have hsettled : settled s db (odPlan row.dutyDate) = (db, some row) := by
    unfold settled
    rw [hcurrent, reserved_of_od, settle_kept hfree hstays]
    unfold endSubstitute
    dsimp only
    rw [hcompleted]
    rfl
  rw [leaves_unrelieved (plan_of_od db row.dutyDate) rfl]
  unfold leaves
  rw [reconcilePlan_eq, hsettled, Option.any_some, hcompleted, reserved_of_od]
  show leaves (propose s (odPlan row.dutyDate) [] [] (some row)) db = db
  unfold leaves
  cases hcandidates : dutyCandidates s db (odPlan row.dutyDate) [] [] with
  | error e => rw [propose_error hcandidates]
  | ok candidates =>
    cases candidates with
    | nil =>
      rw [propose_nil hcandidates]
      show withdraw (some row) db = db
      unfold withdraw
      dsimp only
      rw [hcompleted]
      rfl
    | cons primaryUserId rest => exact absurd (isCandidate_of_mem hcandidates List.mem_cons_self) (hnone primaryUserId)

theorem onward_reconcileToday (hday : Day day db) (hlogged : Logged db) (htoday : s.today = day)
    (hends : EndsWell day db (.operation s .reconcileToday)) : Onward day db (leaves (reconcileToday s) db) := by
  have hstart := Onward.refl hday hlogged
  by_cases hearly : s.currentTimeMinutes < s.officeStart
  · unfold reconcileToday
    rw [if_pos hearly]
    exact hstart
  have hswept : Onward day db (restoreOrphanedDutyAttendance s.today db) :=
    hstart.attend (hday.sane.writes (.single (.sweeps s.today))).1 ⟨_, rfl⟩
  have hod : Onward day db
      (leaves (reconcileDuty s s.today .OD none) (restoreOrphanedDutyAttendance s.today db)) := by
    rw [leaves_reconcileDuty]
    by_cases hdone : ∃ row ∈ db.coverages, row.dutyDate = day ∧ row.dutyType = .OD ∧ row.status = .completed
    · have hnone := hends (not_lt.mp hearly) hdone
      obtain ⟨row, hrow, hdate, htype, hcompleted⟩ := hdone
      rw [htoday, ← hdate] at hnone hswept ⊢
      rw [leaves_od_completed hswept.places.sane hrow htype hcompleted hnone]
      exact hdate ▸ hswept
    · refine hswept.reconcile [] fun plan hplan row hrow hdate hcompleted hkey => hdone ⟨row, hrow, hdate, ?_, hcompleted⟩
      cases hplan
      exact type_of_key hkey
  have hrest : Keeps (Onward day db) (DUTY_PRIORITY.tail.forM fun type => reconcileDuty s s.today type none) := by
    refine Keeps.forM_mem fun type htype => keeps_onward_venue ?_
    rintro rfl
    exact absurd htype (by decide)
  have hall : Triple (fun y => y = restoreOrphanedDutyAttendance s.today db)
      (DUTY_PRIORITY.forM fun type => reconcileDuty s s.today type none) (fun _ => Onward day db) (Onward day db) := by
    refine triple_bind (Q := fun _ => Onward day db) (triple_of_leaves fun y hy => ?_) fun _ => hrest
    rw [hy]
    exact hod
  unfold reconcileToday
  rw [if_neg hearly]
  exact hall.leaves rfl

/-! ## Coverages -/

theorem onward_activateCoverage {userId : Nat} (hday : Day day db) (hlogged : Logged db) :
    Onward day db (leaves (activateCoverage s actor id userId) db) := by
  have hstart := Onward.refl hday hlogged
  cases hread : activatable s db actor id userId with
  | error e =>
    unfold activateCoverage
    rw [leaves_reads_error (f := fun db => activatable s db actor id userId) hread]
    exact hstart
  | ok read =>
    obtain ⟨coverage, attendance⟩ := read
    have hactivates := activatable_eq_ok hread
    unfold activateCoverage
    rw [leaves_reads (f := fun db => activatable s db actor id userId) hread]
    show Onward day db ((db.saveAttendance userId coverage.dutyDate (onDuty coverage.dutyType)).saveCoverage
      (activated coverage userId attendance))
    have hattended : Onward day db (db.saveAttendance userId coverage.dutyDate (onDuty coverage.dutyType)) :=
      hstart.attend (hday.sane.saveAttendance fun _ => ⟨rfl, rfl⟩) ⟨_, rfl⟩
    refine hattended.saveCoverage hactivates.mem (.of_meeting rfl rfl rfl ?_) rfl ?_ ?_
    · exact DutyCoverageStatus.noConfusion
    · exact DutyCoverageStatus.noConfusion
    · rw [hactivates.status]
      exact DutyCoverageStatus.noConfusion

/-- The tables in which the duty of a venue has ended, before the next meeting is looked at. -/
def venueReleased (s : Services) (coverage : DutyDailyCoverage) (db : DutyDb) : DutyDb :=
  completeMeeting coverage.reservationId ((restoreAttendance coverage (recordCompletedCoverage coverage db)).saveCoverage
    { coverage with status := .completed, releasedAt := some s.now })

theorem onward_venueReleased (hday : Day day db) (hlogged : Logged db) (hmem : coverage ∈ db.coverages)
    (hactive : coverage.status = .active) (hapart : IsApart db coverage) : Onward day db (venueReleased s coverage db) := by
  have hrecorded := ((Onward.refl hday hlogged).recordCompletedCoverage hapart).restoreAttendance coverage
  refine hrecorded.ends ?_ (.of_meeting rfl rfl rfl DutyCoverageStatus.noConfusion) rfl ?_
  · rw [restoreAttendance_coverages, recordCompletedCoverage_coverages]
    exact hmem
  · rw [hactive]
    exact DutyCoverageStatus.noConfusion

theorem onward_releaseVenue (h : Onward day db (venueReleased s coverage db)) (hvenue : coverage.dutyType ≠ .OD) :
    Onward day db (leaves (releaseVenue s coverage) db) := by
  have htriple : Triple (fun y => y = db) (releaseVenue s coverage) (fun _ => Onward day db) (Onward day db) := by
    refine triple_bind (Q := fun _ => Onward day db) (triple_modify fun y hy => ?_) fun _ => keeps_onward_reconcileNext hvenue
    rw [hy]
    exact h
  exact htriple.leaves rfl

/-- An OD with a replacement is logged, after the turn that proposed it. -/
theorem releaseOd_returns (h : raises (releaseOd s coverage) db = none) : leaves (releaseOd s coverage) db =
    recordCompletedCoverage coverage (leaves (reconcileCoverage s coverage.dutyDate coverage.dutyType
      coverage.assignedUserId.toList none) (odReleased s coverage db)) := by
  have hstart : releaseOd s coverage db = EStateM.bind
      (attempt (reconcileCoverage s coverage.dutyDate coverage.dutyType coverage.assignedUserId.toList none))
      (fun replacement => if isReplacement replacement then modify (recordCompletedCoverage coverage)
        else modify (reinstate coverage) >>= fun _ => reads fun _ => .error (replacementError replacement))
      (odReleased s coverage db) := rfl
  unfold raises at h
  unfold leaves
  rw [hstart] at h ⊢
  unfold EStateM.bind attempt at h ⊢
  cases hturn : reconcileCoverage s coverage.dutyDate coverage.dutyType coverage.assignedUserId.toList none
      (odReleased s coverage db) with
  | error e y =>
    rw [hturn] at h
    cases h
  | ok replacement y =>
    rw [hturn] at h
    dsimp only at h ⊢
    split_ifs at h ⊢
    · rfl
    · cases h

theorem onward_odReleased (hday : Day day db) (hlogged : Logged db) (hmem : coverage ∈ db.coverages)
    (hactive : coverage.status = .active) (hod : coverage.dutyType = .OD) : Onward day db (odReleased s coverage db) := by
  have hrestored := (Onward.refl hday hlogged).restoreAttendance coverage
  have hmem' : coverage ∈ (restoreAttendance coverage db).coverages := by rwa [restoreAttendance_coverages]
  refine hrestored.saveCoverage hmem' ⟨rfl, rfl, fun h => ⟨h.od, fun _ => hod⟩⟩ rfl DutyCoverageStatus.noConfusion ?_
  rw [hactive]
  exact DutyCoverageStatus.noConfusion

/-- The released row is the row of its day. -/
theorem mem_odReleased (hmem : coverage ∈ db.coverages) :
    { coverage with status := .released, releasedAt := some s.now } ∈ (odReleased s coverage db).coverages := by
  have hmem' : coverage ∈ (restoreAttendance coverage db).coverages := by rwa [restoreAttendance_coverages]
  exact saveCoverage_mem hmem' rfl

theorem onward_releaseOd (hday : Day day db) (hlogged : Logged db) (hmem : coverage ∈ db.coverages)
    (hactive : coverage.status = .active) (hod : coverage.dutyType = .OD) :
    Onward day db (leaves (releaseOd s coverage) db) := by
  have hreleased : Onward day db (odReleased s coverage db) := onward_odReleased hday hlogged hmem hactive hod
  have hregular := (hday.sane.regular coverage hmem).od hod
  cases hraises : raises (releaseOd s coverage) db with
  | some e =>
    rw [releaseOd_raises hday.sane hmem hod hraises]
    have hattended : Onward day db (attendDuty coverage (odReleased s coverage db)) :=
      hreleased.attend (hreleased.places.sane.attendDuty coverage) (attendDuty_eq _ _)
    have hrow : { coverage with status := .released, releasedAt := some s.now } ∈
        (attendDuty coverage (odReleased s coverage db)).coverages := by
      rw [attendDuty_coverages]
      exact mem_odReleased hmem
    refine hattended.saveCoverage hrow ⟨rfl, rfl, fun h => ⟨h.od, fun h => ?_⟩⟩ rfl ?_ ?_
    · exact DutyCoverageStatus.noConfusion h
    · exact DutyCoverageStatus.noConfusion
    · exact DutyCoverageStatus.noConfusion
  | none =>
    rw [releaseOd_returns hraises]
    have hturn : Onward day db (leaves (reconcileCoverage s coverage.dutyDate coverage.dutyType
        coverage.assignedUserId.toList none) (odReleased s coverage db)) := by
      refine hreleased.reconcile _ fun plan hplan row hrow _ hcompleted hkey => ?_
      rw [hod] at hplan
      cases hplan
      have hsame : row.key = coverage.key := by
        rw [hkey, DutyDailyCoverage.key, hregular.2, hod]
        rfl
      rw [hreleased.places.sane.keyed.eq_of_key hrow (mem_odReleased hmem) hsame] at hcompleted
      cases hcompleted
    refine hturn.recordCompletedCoverage fun reliever _ hmeeting => ?_
    rw [hregular.1] at hmeeting
    cases hmeeting

theorem leaves_releaseCoverage (hread : releasable s db actor id = .ok coverage) :
    leaves (releaseCoverage s actor id) db =
      if coverage.dutyType = .OD then leaves (releaseOd s coverage) db else leaves (releaseVenue s coverage) db := by
  unfold releaseCoverage
  rw [leaves_reads (f := fun db => releasable s db actor id) hread]
  split_ifs <;> rfl

/-- The technician of a coverage that may be released does not relieve its meeting. -/
theorem apart_of_releasable (hday : Day day db) (hread : releasable s db actor id = .ok coverage)
    (hends : EndsWell day db (.operation s (.releaseCoverage actor id))) : IsApart db coverage := by
  by_cases hdate : coverage.dutyDate = day
  · exact hday.isApart (releasable_eq_ok hread).1 hdate
  · exact hends coverage hread hdate

theorem onward_releaseCoverage (hday : Day day db) (hlogged : Logged db)
    (hends : EndsWell day db (.operation s (.releaseCoverage actor id))) :
    Onward day db (leaves (releaseCoverage s actor id) db) := by
  cases hread : releasable s db actor id with
  | error e =>
    unfold releaseCoverage
    rw [leaves_reads_error (f := fun db => releasable s db actor id) hread]
    exact .refl hday hlogged
  | ok coverage =>
    obtain ⟨hmem, -, hactive⟩ := releasable_eq_ok hread
    rw [leaves_releaseCoverage hread]
    split_ifs with hod
    · exact onward_releaseOd hday hlogged hmem hactive hod
    · have hapart := apart_of_releasable hday hread hends
      exact onward_releaseVenue (onward_venueReleased hday hlogged hmem hactive hapart) hod

theorem onward_completeReservation (hday : Day day db) (hlogged : Logged db) :
    Onward day db (leaves (completeReservation s actor id) db) := by
  have hstart := Onward.refl hday hlogged
  cases hread : completable s db actor id with
  | error e =>
    unfold completeReservation
    rw [leaves_reads_error (f := fun db => completable s db actor id) hread]
    exact hstart
  | ok found =>
    unfold completeReservation
    rw [leaves_reads (f := fun db => completable s db actor id) hread]
    cases found with
    | none => exact hstart
    | some reservation =>
      obtain ⟨hmem, -, hopen⟩ := completable_eq_ok hread
      have htriple : Triple (fun y => y = db) (do
          modify fun db => ((db.relieversOf reservation.id).foldl
            (fun db reliever => recordReliever reservation actor.id "Immediate reliever duty completed: " reliever db)
              db).saveReservation { reservation with status := .completed }
          reconcileNext s reservation.meetingDate reservation.venueType : DutyM Unit) (fun _ => Onward day db)
          (Onward day db) := by
        refine triple_bind (Q := fun _ => Onward day db) (triple_modify fun y hy => ?_) fun _ =>
          keeps_onward_reconcileNext (hday.venues reservation hmem)
        subst hy
        have hrecorded := hstart.foldl (f := fun y reliever =>
            recordReliever reservation actor.id "Immediate reliever duty completed: " reliever y)
          (fun y reliever h => h.recordReliever reservation actor.id _ reliever) (y.relieversOf reservation.id)
        refine hrecorded.completes ?_ (status_of_isOpen hopen).1
        rw [(((Sane.writes hday.sane (writes_recordRelievers reservation actor.id _ _ y))).2).reservations]
        exact hmem
      exact htriple.leaves rfl

/-! ## The end of the day -/

theorem onward_finalizeCoverage (h : Onward day db x) (hmem : coverage ∈ x.coverages) (hdate : coverage.dutyDate = day)
    (hstatus : coverage.status = .active ∨ coverage.status = .released) : Onward day db (finalizeCoverage x coverage) := by
  have hopen : coverage.status ≠ .completed := by
    rcases hstatus with hstatus | hstatus <;> rw [hstatus] <;> exact DutyCoverageStatus.noConfusion
  unfold finalizeCoverage
  split_ifs
  · refine Onward.restoreAttendance ?_ coverage
    refine (h.recordCompletedCoverage (h.places.isApart hmem hdate)).ends ?_ (.of_meeting rfl rfl rfl ?_) rfl hopen
    · rwa [recordCompletedCoverage_coverages]
    · exact DutyCoverageStatus.noConfusion
  · exact h
  · exact h.restoreAttendance coverage

theorem onward_foldl (items : List DutyDailyCoverage) (h : Onward day db x) (hids : (items.map DutyDailyCoverage.id).Nodup)
    (hitems : ∀ coverage ∈ items, coverage ∈ x.coverages ∧ coverage.dutyDate = day ∧
      (coverage.status = .active ∨ coverage.status = .released)) : Onward day db (items.foldl finalizeCoverage x) := by
  induction items generalizing x with
  | nil => exact h
  | cons coverage rest ih =>
    rw [List.map_cons, List.nodup_cons] at hids
    obtain ⟨hmem, hdate, hstatus⟩ := hitems coverage List.mem_cons_self
    refine ih (onward_finalizeCoverage h hmem hdate hstatus) hids.2 fun other hother => ?_
    obtain ⟨hmem', hboth⟩ := hitems other (List.mem_cons_of_mem _ hother)
    refine ⟨finalizeCoverage_keeps hmem' fun hid => hids.1 ?_, hboth⟩
    rw [← hid]
    exact List.mem_map_of_mem hother

theorem isDue_eq_true : isDue s row = true ↔ row.dutyDate = s.today ∧ (row.status = .active ∨ row.status = .released) := by
  unfold isDue
  simp only [Bool.and_eq_true, Bool.or_eq_true, decide_eq_true_eq]

theorem onward_finalizeToday (hday : Day day db) (hlogged : Logged db) (htoday : s.today = day) :
    Onward day db (leaves (finalizeToday s) db) := by
  have hstart := Onward.refl hday hlogged
  by_cases hearly : s.currentTimeMinutes < s.officeEnd
  · unfold finalizeToday
    rw [if_pos hearly]
    exact hstart
  rw [leaves_finalizeToday hearly, finalizeCoverages_eq]
  have hrecorded : Onward day db (recordRelievers (renderedRelievers s db) db) :=
    hstart.foldl (fun y entry h => h.recordReliever entry.1 entry.2.createdById _ entry.2) _
  refine onward_foldl _ hrecorded ?_ fun coverage hcoverage => ?_
  · exact hrecorded.places.sane.keyed.coverageIds.sublist (List.filter_sublist.map _)
  · obtain ⟨hmem, hdue⟩ := List.mem_filter.mp hcoverage
    obtain ⟨hdate, hstatus⟩ := isDue_eq_true.mp hdue
    exact ⟨hmem, hdate.trans htoday, hstatus⟩

/-! ## The logs of an operation -/

theorem coverageLogs_grows (hgrows : db.assignments <+: db'.assignments) {coverageId userId : Nat}
    (h : 1 ≤ (coverageLogs db coverageId userId).length) : 1 ≤ (coverageLogs db' coverageId userId).length := by
  have hle := (hgrows.sublist.filter fun row : DutyAssignment => row.coverageId = some coverageId && row.userId = userId).length_le
  unfold coverageLogs at h ⊢
  omega

theorem log_of_finalizeCoverage {userId : Nat} (huser : coverage.assignedUserId = some userId)
    (hoccurred : dutyOccurred db coverage = true) :
    1 ≤ (coverageLogs (finalizeCoverage db coverage) coverage.id userId).length := by
  have hended : ended db coverage = true := ended_eq_true.mpr ⟨by rw [huser]; rfl, hoccurred⟩
  have hlog : 1 ≤ (coverageLogs (recordCompletedCoverage coverage db) coverage.id userId).length :=
    length_recordCompletedCoverage huser
  rw [finalizeCoverage_ended hended]
  refine coverageLogs_grows ?_ hlog
  rw [restoreAttendance_assignments, completeMeeting_assignments]
  exact List.prefix_rfl

theorem log_of_foldl (items : List DutyDailyCoverage) (hdb : Sane db) (hids : (items.map DutyDailyCoverage.id).Nodup)
    (hitems : ∀ coverage ∈ items, coverage ∈ db.coverages) (hmem : coverage ∈ items) {userId : Nat}
    (huser : coverage.assignedUserId = some userId) (hoccurred : dutyOccurred db coverage = true) :
    1 ≤ (coverageLogs (items.foldl finalizeCoverage db) coverage.id userId).length := by
  induction items generalizing db with
  | nil => cases hmem
  | cons first rest ih =>
    rw [List.map_cons, List.nodup_cons] at hids
    have hfirst := hitems first List.mem_cons_self
    rcases List.mem_cons.mp hmem with rfl | hmem
    · exact coverageLogs_grows (foldl_grows rest _) (log_of_finalizeCoverage huser hoccurred)
    · refine ih (hdb.finalizeCoverage hfirst) hids.2 (fun other hother => ?_) hmem ?_
      · refine finalizeCoverage_keeps (hitems other (List.mem_cons_of_mem _ hother)) fun hid => hids.1 ?_
        rw [← hid]
        exact List.mem_map_of_mem hother
      · rw [dutyOccurred_congr (rendering_finalizeCoverage (hdb.regular first hfirst))]
        exact hoccurred

/-- The end of the day logs a duty that took place. -/
theorem log_of_finalize (hdb : Sane db) (hend : s.officeEnd ≤ s.currentTimeMinutes) (hmem : coverage ∈ db.coverages)
    (hdate : coverage.dutyDate = s.today) (hactive : coverage.status = .active) (hoccurred : dutyOccurred db coverage = true)
    {userId : Nat} (huser : coverage.assignedUserId = some userId) :
    1 ≤ (coverageLogs (leaves (finalizeToday s) db) coverage.id userId).length := by
  obtain ⟨assignments, hlogs, -, -⟩ := recordRelievers_eq (renderedRelievers s db) db
  have hsane : Sane { db with assignments } :=
    ⟨hdb.keyed.write (.logs assignments db.exceptions db.nextId le_rfl), hdb.regular⟩
  rw [leaves_finalizeToday (not_lt.mpr hend), hlogs, finalizeCoverages_eq]
  refine log_of_foldl _ hsane (hdb.keyed.coverageIds.sublist (List.filter_sublist.map _))
    (fun other hother => (List.mem_filter.mp hother).1) ?_ huser hoccurred
  exact List.mem_filter.mpr ⟨hmem, isDue_eq_true.mpr ⟨hdate, .inl hactive⟩⟩

/-- A release that returns logs the duty. -/
theorem log_of_release (hday : Day day db) (hlogged : Logged db)
    (hends : EndsWell day db (.operation s (.releaseCoverage actor id)))
    (hreturns : raises (releaseCoverage s actor id) db = none) (hmem : coverage ∈ db.coverages) (hid : coverage.id = id)
    {userId : Nat} (huser : coverage.assignedUserId = some userId) :
    1 ≤ (coverageLogs (leaves (releaseCoverage s actor id) db) id userId).length := by
  cases hread : releasable s db actor id with
  | error e =>
    unfold raises releaseCoverage at hreturns
    rw [reads_bind_error (f := fun db => releasable s db actor id) hread] at hreturns
    cases hreturns
  | ok found =>
    obtain ⟨hfound, hfoundId, hactive⟩ := releasable_eq_ok hread
    obtain rfl := hday.sane.keyed.eq_coverage hfound hmem (hfoundId.trans hid.symm)
    subst hid
    rw [leaves_releaseCoverage hread]
    split_ifs with hod
    · have hraises : raises (releaseOd s found) db = none := by
        unfold raises releaseCoverage at hreturns
        rw [reads_bind_ok (f := fun db => releasable s db actor found.id) hread, if_pos hod] at hreturns
        exact hreturns
      rw [releaseOd_returns hraises]
      exact length_recordCompletedCoverage huser
    · have hvenue := onward_venueReleased (s := s) hday hlogged hmem hactive (apart_of_releasable hday hread hends)
      have hkeeps : Keeps (Onward day (venueReleased s found db)) (reconcileNext s found.dutyDate found.dutyType) :=
        keeps_onward_reconcileNext hod
      have hafter : Onward day (venueReleased s found db) (leaves (releaseVenue s found) db) :=
        hkeeps.leaves (Onward.refl hvenue.places hvenue.logged)
      have hlog : 1 ≤ (coverageLogs (recordCompletedCoverage found db) found.id userId).length :=
        length_recordCompletedCoverage huser
      refine coverageLogs_grows hafter.grows (coverageLogs_grows ?_ hlog)
      unfold venueReleased
      rw [completeMeeting_assignments]
      show _ <+: (restoreAttendance found (recordCompletedCoverage found db)).assignments
      simp only [restoreAttendance_assignments, List.prefix_rfl]

/-! ## Runs -/

/-- Every event of the day keeps what the day keeps. -/
theorem onward_step {e : Event} (hday : Day day db) (hlogged : Logged db) (hon : OnDay day e) (hstep : DutyStep db e db')
    (hends : EndsWell day db e) : Onward day db db' := by
  have hsane := hday.sane.step hstep
  cases hstep with
  | attendance _ => exact (Onward.refl hday hlogged).attend hsane ⟨_, rfl⟩
  | operation s op =>
    obtain ⟨htoday, hop⟩ := hon
    cases op with
    | reconcileToday => exact onward_reconcileToday hday hlogged htoday hends
    | activateCoverage actor id userId => exact onward_activateCoverage hday hlogged
    | releaseCoverage actor id => exact onward_releaseCoverage hday hlogged hends
    | completeReservation actor id => exact onward_completeReservation hday hlogged
    | finalizeToday => exact onward_finalizeToday hday hlogged htoday
    | _ => exact absurd hop id

/-- What was rendered before a step stays so, and the step adds its own. -/
theorem Rendered.step {history : List (Transition DutyDb Event)} {e : Event} (h : Rendered day history db)
    (hday : Day day db) (hon : OnDay day e) (hstep : DutyStep db e db') (hends : EndsWell day db e) :
    Rendered day (history ++ [⟨db, e, db'⟩]) db' := by
  have hkept := onward_step hday h.logged hon hstep hends
  refine ⟨hkept.logged, fun t ht => ?_, fun t ht => ?_, fun t ht => ?_, fun t ht => ?_⟩
  · rcases List.mem_append.mp ht with ht | ht
    · intro s actor id hlabel hreturns coverage hmem hid userId huser
      exact logged_once hkept.logged hkept.grows (h.released t ht s actor id hlabel hreturns coverage hmem hid userId huser).ge
    · rw [List.mem_singleton] at ht
      subst ht
      rintro s actor id rfl hreturns coverage hmem hid userId huser
      cases hstep
      refine logged_once hkept.logged List.prefix_rfl ?_
      exact log_of_release hday h.logged hends hreturns hmem hid huser
  · rcases List.mem_append.mp ht with ht | ht
    · intro s hlabel hend coverage hmem hdate hactive hoccurred userId huser
      exact logged_once hkept.logged hkept.grows
        (h.finalized t ht s hlabel hend coverage hmem hdate hactive hoccurred userId huser).ge
    · rw [List.mem_singleton] at ht
      subst ht
      rintro s rfl hend coverage hmem hdate hactive hoccurred userId huser
      cases hstep
      refine logged_once hkept.logged List.prefix_rfl ?_
      exact log_of_finalize hday.sane hend hmem (hdate.trans hon.1.symm) hactive hoccurred huser
  · rcases List.mem_append.mp ht with ht | ht
    · exact h.again t ht
    · rw [List.mem_singleton] at ht
      subst ht
      rintro s rfl hend s' htoday htickets
      cases hstep
      exact finalizeToday_again hday.sane (hends hend) (not_lt.mpr hend) htoday htickets
  · rcases List.mem_append.mp ht with ht | ht
    · intro coverage hmem hdate hcompleted
      exact hkept.rests coverage (h.completed t ht coverage hmem hdate hcompleted) hdate hcompleted
    · rw [List.mem_singleton] at ht
      subst ht
      exact hkept.rests

/-- **Rendered duty is logged once and stays completed**, after every run of a day whose steps end well. -/
theorem rendered_duty_is_logged_once {history : List (Transition DutyDb Event)} (h : Run (dutyDay day) history db)
    (hends : ∀ e ∈ history, EndsWell day e.before e.label) : Rendered day history db := by
  refine (Run.invariant (I := fun history db => Day day db ∧ Rendered day history db) (fun db hstart => ?_)
    (fun history a e b _ hI hstep hwell => ?_) h hends).2
  · refine ⟨hstart.places, hstart.logged, ?_, ?_, ?_, ?_⟩ <;> exact fun t ht => absurd ht List.not_mem_nil
  · obtain ⟨hday, hrendered⟩ := hI
    exact ⟨(onward_step hday hrendered.logged hstep.1 hstep.2 hwell).places, hrendered.step hday hstep.1 hstep.2 hwell⟩

/-! ## The minute of the clock-out -/

def fiveOClock : Services := { nineOClock with now := 32400000 }

theorem starts_meetingDay : Starts 0 meetingDay := by
  have hsane : Sane meetingDay := (alone_of_run run_meetingDay).1
  refine ⟨⟨hsane, by decide, ?_, fun _ hmem => absurd hmem List.not_mem_nil⟩, ⟨fun _ _ => Nat.zero_le 1, fun _ _ => Nat.zero_le 1⟩,
    fun _ hmem => absurd hmem List.not_mem_nil⟩
  intro a ha b hb _ _ _ _ _ _
  rw [List.mem_singleton.mp ha, List.mem_singleton.mp hb]

theorem run_dutyDay {history : List (Transition DutyDb Event)} (h : Run (dutyDay day) history db) (s : Services)
    (op : Operation) (htoday : s.today = day) (hop : IsOfDay op) :
    Run (dutyDay day) (history ++ [⟨db, .operation s op, leaves (op.run s) db⟩]) (leaves (op.run s) db) :=
  h.step ⟨⟨htoday, hop⟩, .operation s op⟩

theorem day_odOnDuty : ∃ history, Run (dutyDay 0) history odOnDuty ∧ ∀ e ∈ history, EndsWell 0 e.before e.label := by
  have hrun := run_dutyDay (run_dutyDay (.init starts_meetingDay) nineOClock .reconcileToday rfl trivial)
    nineOClock (.activateCoverage dutyAdministrator 1 1) rfl trivial
  refine ⟨_, hrun, fun e he => ?_⟩
  rw [List.nil_append, List.singleton_append, List.mem_cons, List.mem_singleton] at he
  rcases he with rfl | rfl
  · rintro - ⟨coverage, hmem, -⟩
    exact absurd hmem List.not_mem_nil
  · exact trivial

/-- The first technician is the OD, until the end of the day. -/
theorem rendered_once_by_the_od : (coverageLogs (leaves (finalizeToday fiveOClock) odOnDuty) 1 1).length = 1 ∧
    leaves (finalizeToday fiveOClock) (leaves (finalizeToday fiveOClock) odOnDuty) = leaves (finalizeToday fiveOClock) odOnDuty := by
  obtain ⟨history, hrun, hwell⟩ := day_odOnDuty
  have hends : EndsOnce fiveOClock odOnDuty :=
    ⟨fun _ _ _ _ reliever hreliever => absurd hreliever List.not_mem_nil, by unfold Unmixed; decide +kernel⟩
  have hrendered := rendered_duty_is_logged_once (run_dutyDay hrun fiveOClock .finalizeToday rfl trivial) (by
    intro e he
    rcases List.mem_append.mp he with he | he
    · exact hwell e he
    · rw [List.mem_singleton.mp he]
      exact fun _ => hends)
  have hod : ∃ coverage ∈ odOnDuty.coverages, coverage.dutyDate = 0 ∧ coverage.status = .active ∧
      dutyOccurred odOnDuty coverage = true ∧ coverage.assignedUserId = some 1 ∧ coverage.id = 1 := by
    decide +kernel
  obtain ⟨coverage, hmem, hdate, hactive, hoccurred, huser, hid⟩ := hod
  have hend : fiveOClock.officeEnd ≤ fiveOClock.currentTimeMinutes := by decide +kernel
  have hlogs := hrendered.finalized _ (List.mem_append_right _ (List.mem_singleton_self _)) fiveOClock rfl hend coverage hmem
    hdate hactive hoccurred 1 huser
  rw [hid] at hlogs
  have hagain := hrendered.again _ (List.mem_append_right _ (List.mem_singleton_self _)) fiveOClock rfl hend fiveOClock rfl rfl
  exact ⟨hlogs, hagain⟩

/-- The day has ended, and at the same minute its OD is proposed again. -/
theorem od_proposed_after_the_day : ¬ ∀ (day : Int) (history : List (Transition DutyDb Event)) (db : DutyDb),
    Run (dutyDay day) history db → Rendered day history db := by
  intro hall
  have hrun := run_dutyDay (run_dutyDay (run_dutyDay (run_dutyDay (.init starts_meetingDay) nineOClock .reconcileToday rfl
    trivial) nineOClock (.activateCoverage dutyAdministrator 1 1) rfl trivial) fiveOClock .finalizeToday rfl trivial)
    fiveOClock .reconcileToday rfl trivial
  have hrendered := hall 0 _ _ hrun
  have hlost : ∃ coverage ∈ (leaves (finalizeToday fiveOClock) odOnDuty).coverages, coverage.dutyDate = 0 ∧
      coverage.status = .completed ∧
      coverage ∉ (leaves (reconcileToday fiveOClock) (leaves (finalizeToday fiveOClock) odOnDuty)).coverages := by
    decide +kernel
  obtain ⟨coverage, hmem, hdate, hcompleted, hgone⟩ := hlost
  exact hgone (hrendered.completed _ (List.mem_append_right _ (List.mem_singleton_self _)) coverage hmem hdate hcompleted)

end ComplianceHub.Duty
