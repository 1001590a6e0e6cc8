import ComplianceHub.Duty.Settled

/-!
# The row that reconciliation writes

* `TakenOver` : an active row is lost, and somebody of the rotation could take the duty over. The row is forgotten then,
  and the new one violates the unique key;
* `raises_reconcileCoverage` : a reconciliation raises exactly there, if the rotation has a member;
* `own_row_is_reused` : so it is after every run, and the duties of today are gone through where no turn meets it.
-/

namespace ComplianceHub.Duty

open ComplianceHub.Lib

variable {s : Services} {db : DutyDb} {plan : CoveragePlan} {coverage : DutyDailyCoverage} {userId : Nat}
variable {reserved : List (Nat × DutyDailyCoverage)} {date : Int} {type : DutyType}
variable {excludedUserIds : List Nat} {requestedPeriod : Option DutyPeriod}

/-- The rotation of a duty has a member that no exception excludes. -/
def HasMember (s : Services) (db : DutyDb) (date : Int) (type : DutyType) : Prop :=
  ∃ row ∈ s.getRotation db date type, row.excluded = false

/-- Somebody who can be proposed for a duty. -/
structure IsCandidate (s : Services) (db : DutyDb) (plan : CoveragePlan) (reserved : List (Nat × DutyDailyCoverage))
    (excludedUserIds : List Nat) (userId : Nat) : Prop where
  member : ∃ row ∈ s.getRotation db plan.date plan.type, row.excluded = false ∧ row.userId = userId
  present : s.isAttendanceEligible db userId plan.date false = true
  unreserved : ∀ entry ∈ reserved, entry.1 ≠ userId
  unskipped : userId ∉ excludedUserIds

/-- An active row is lost, and with its attendance restored there is somebody to propose. -/
structure TakenOver (s : Services) (db : DutyDb) (plan : CoveragePlan) (excludedUserIds : List Nat)
    (coverage : DutyDailyCoverage) (userId : Nat) : Prop extends Considered db plan coverage where
  lost : isLost s db plan.date coverage = true
  candidate : IsCandidate s (restoreAttendance coverage db) plan (reservedByPriorDuty db plan) excludedUserIds userId

/-- The reconciliation of a duty finds its own row in the way. -/
def CollidesWithOwnRow (s : Services) (db : DutyDb) (date : Int) (type : DutyType) (excludedUserIds : List Nat)
    (requestedPeriod : Option DutyPeriod) : Prop :=
  ∃ plan coverage userId, coveragePlan db date type requestedPeriod = some plan ∧
    TakenOver s db plan excludedUserIds coverage userId

/-! ## The candidates -/

theorem dutyCandidates_eq (reserved : List (Nat × DutyDailyCoverage)) (excludedUserIds : List Nat)
    (h : HasMember s db plan.date plan.type) : ∃ candidates,
    dutyCandidates s db plan reserved excludedUserIds = .ok candidates ∧
      ∀ userId, userId ∈ candidates ↔ IsCandidate s db plan reserved excludedUserIds userId := by
  obtain ⟨row, hrow, hfree⟩ := h
  have hrotation : row.userId ∈ ((s.getRotation db plan.date plan.type).filter fun row => !row.excluded).map
      Services.RotationRow.userId :=
    List.mem_map_of_mem (List.mem_filter.mpr ⟨hrow, by rw [hfree, Bool.not_false]⟩)
  refine ⟨_, (bind_eq_ok.mpr ⟨(), check_eq_ok.mpr (List.ne_nil_of_mem hrotation), rfl⟩), fun userId => ?_⟩
  rw [List.mem_filter, List.mem_map]
  simp only [List.mem_filter, Bool.not_eq_true', Bool.and_eq_true, List.any_eq_false, decide_eq_true_eq,
    List.contains_eq_mem, decide_eq_false_iff_not]
  constructor
  · rintro ⟨⟨row, ⟨hrow, hfree⟩, huser⟩, ⟨hpresent, hunreserved⟩, hunskipped⟩
    exact ⟨⟨row, hrow, hfree, huser⟩, hpresent, hunreserved, hunskipped⟩
  · rintro ⟨⟨row, hrow, hfree, huser⟩, hpresent, hunreserved, hunskipped⟩
    exact ⟨⟨row, ⟨hrow, hfree⟩, huser⟩, ⟨hpresent, hunreserved⟩, hunskipped⟩

theorem HasMember.of_sameLogs {db' : DutyDb} (h : HasMember s db date type) (hlogs : SameLogs db db') :
    HasMember s db' date type := by
  unfold HasMember
  rw [hlogs.getRotation]
  exact h

/-- A row in memory is written over, so nothing is in its way. -/
theorem raises_propose_some (h : HasMember s db plan.date plan.type) :
    raises (propose s plan reserved excludedUserIds (some coverage)) db = none := by
  obtain ⟨candidates, hcandidates, -⟩ := dutyCandidates_eq reserved excludedUserIds h
  unfold raises
  cases candidates with
  | nil => rw [propose_nil hcandidates]
  | cons primaryUserId rest => rw [propose_cons hcandidates rfl]

/-- A new row is in nobody's way where the plan has none. -/
theorem raises_propose_none (h : HasMember s db plan.date plan.type) (hnone : db.coverageOf plan = none) :
    raises (propose s plan reserved excludedUserIds none) db = none := by
  obtain ⟨candidates, hcandidates, -⟩ := dutyCandidates_eq reserved excludedUserIds h
  unfold raises
  cases candidates with
  | nil => rw [propose_nil hcandidates]
  | cons primaryUserId rest =>
    have hrow : proposed db plan primaryUserId none = .ok (pendingCoverage db.nextId plan primaryUserId) := by
      unfold proposed
      dsimp only
      rw [hnone]
    rw [propose_cons hcandidates hrow]

/-! ## A row that is lost -/

theorem isCandidate_givenUp : IsCandidate s (givenUp coverage db) plan reserved excludedUserIds userId ↔
    IsCandidate s (restoreAttendance coverage db) plan reserved excludedUserIds userId :=
  ⟨fun ⟨hmember, hpresent, hunreserved, hunskipped⟩ => ⟨hmember, hpresent, hunreserved, hunskipped⟩,
    fun ⟨hmember, hpresent, hunreserved, hunskipped⟩ => ⟨hmember, hpresent, hunreserved, hunskipped⟩⟩

theorem raises_lost (hmember : HasMember s db plan.date plan.type) (h : Considered db plan coverage)
    (hlost : isLost s db plan.date coverage = true) (excludedUserIds : List Nat) :
    (raises (reconcilePlan s plan excludedUserIds) db = some databaseError ∧
        ∃ userId, TakenOver s db plan excludedUserIds coverage userId) ∨
      (raises (reconcilePlan s plan excludedUserIds) db = none ∧
        ∀ userId, ¬ TakenOver s db plan excludedUserIds coverage userId) := by
  have hmember' := hmember.of_sameLogs (sameLogs_givenUp coverage { coverage with status := .cancelled } db)
  obtain ⟨candidates, hcandidates, hmem⟩ := dutyCandidates_eq (reservedByPriorDuty db plan) excludedUserIds hmember'
  unfold raises
  rw [reconcilePlan_lost h hlost]
  cases candidates with
  | nil =>
    rw [propose_nil hcandidates]
    refine .inr ⟨rfl, fun userId htaken => ?_⟩
    exact List.not_mem_nil ((hmem userId).mpr (isCandidate_givenUp.mpr htaken.candidate))
  | cons primaryUserId rest =>
    rw [propose_collides hcandidates (proposed_beside (coverageOf_givenUp h.current) primaryUserId)]
    refine .inl ⟨rfl, primaryUserId, h, hlost, ?_⟩
    exact isCandidate_givenUp.mp ((hmem primaryUserId).mp List.mem_cons_self)

/-- A row that is not lost stays in memory. -/
theorem settled_some (hcurrent : db.coverageOf plan = some coverage)
    (h : keptFor (reservedByPriorDuty db plan) coverage = none → isLost s db plan.date coverage = false) :
    ∃ other, (settled s db plan).2 = some other := by
  unfold settled
  rw [hcurrent]
  cases hkept : keptFor (reservedByPriorDuty db plan) coverage with
  | some prior =>
    obtain ⟨userId, huser, hprior⟩ := Option.bind_eq_some_iff.mp hkept
    rw [settle_yields huser hprior]
    exact ⟨_, rfl⟩
  | none =>
    rw [settle_kept hkept (h hkept)]
    exact endSubstitute_some db coverage

theorem raises_reconcilePlan_some (hmember : HasMember s db plan.date plan.type) (excludedUserIds : List Nat)
    {other : DutyDailyCoverage} (h : (settled s db plan).2 = some other) :
    raises (reconcilePlan s plan excludedUserIds) db = none := by
  unfold raises
  rw [reconcilePlan_eq, h, Option.any_some]
  split_ifs
  · rfl
  · exact raises_propose_some (hmember.of_sameLogs (sameLogs_settle (db, db.coverageOf plan)))

theorem raises_reconcilePlan (hmember : HasMember s db plan.date plan.type) (hunrelieved : hasRelievers db plan = false)
    (excludedUserIds : List Nat) :
    (raises (reconcilePlan s plan excludedUserIds) db = some databaseError ∧
        ∃ coverage userId, TakenOver s db plan excludedUserIds coverage userId) ∨
      (raises (reconcilePlan s plan excludedUserIds) db = none ∧
        ∀ coverage userId, ¬ TakenOver s db plan excludedUserIds coverage userId) := by
  cases hcurrent : db.coverageOf plan with
  | none =>
    refine .inr ⟨?_, fun coverage userId htaken => ?_⟩
    · have hsettled : settled s db plan = (db, none) := by
        unfold settled
        rw [hcurrent]
        rfl
      unfold raises
      rw [reconcilePlan_eq, hsettled]
      exact raises_propose_none hmember hcurrent
    · have hsome := hcurrent.symm.trans htaken.current
      cases hsome
  | some coverage =>
    have honly (other : DutyDailyCoverage) (h : db.coverageOf plan = some other) : other = coverage :=
      Option.some.inj (h.symm.trans hcurrent)
    by_cases hlost : keptFor (reservedByPriorDuty db plan) coverage = none ∧ isLost s db plan.date coverage = true
    · rcases raises_lost hmember ⟨hunrelieved, hcurrent, hlost.1⟩ hlost.2 excludedUserIds with ⟨hraises, htaken⟩ | ⟨hraises, hnone⟩
      · exact .inl ⟨hraises, coverage, htaken⟩
      · refine .inr ⟨hraises, fun other userId htaken => ?_⟩
        obtain rfl := honly other htaken.current
        exact hnone userId htaken
    · obtain ⟨other, hother⟩ := settled_some (s := s) hcurrent fun hkept =>
        Bool.eq_false_iff.mpr fun hisLost => hlost ⟨hkept, hisLost⟩
      refine .inr ⟨raises_reconcilePlan_some hmember excludedUserIds hother, fun other userId htaken => ?_⟩
      obtain rfl := honly other htaken.current
      exact hlost ⟨htaken.free, htaken.lost⟩

/-- A reconciliation returns, or finds its own row in the way. -/
theorem raises_reconcileCoverage (hmember : HasMember s db date type) (excludedUserIds : List Nat)
    (requestedPeriod : Option DutyPeriod) :
    (raises (reconcileCoverage s date type excludedUserIds requestedPeriod) db = some databaseError ∧
        CollidesWithOwnRow s db date type excludedUserIds requestedPeriod) ∨
      (raises (reconcileCoverage s date type excludedUserIds requestedPeriod) db = none ∧
        ¬ CollidesWithOwnRow s db date type excludedUserIds requestedPeriod) := by
  have hplan {plan : CoveragePlan} (h : coveragePlan db date type requestedPeriod = some plan) (other : CoveragePlan)
      (h' : coveragePlan db date type requestedPeriod = some other) : other = plan :=
    Option.some.inj (h'.symm.trans h)
  cases hread : coveragePlan db date type requestedPeriod with
  | none =>
    refine .inr ⟨?_, ?_⟩
    · unfold raises reconcileCoverage
      rw [reads_bind_ok (a := none)]
      · rfl
      · rw [hread, Option.map_none]
    · rintro ⟨plan, _, _, hsome, -⟩
      cases hread.symm.trans hsome
  | some plan =>
    obtain ⟨hdate, htype⟩ := coveragePlan_eq_some hread
    cases hrelievers : hasRelievers db plan with
    | true =>
      refine .inr ⟨?_, ?_⟩
      · unfold raises reconcileCoverage
        rw [reads_bind_ok (a := some (plan, true))]
        · rfl
        · rw [hread, Option.map_some, hrelievers]
      · rintro ⟨other, _, _, hsome, htaken⟩
        obtain rfl := hplan hread other hsome
        exact Bool.false_ne_true (htaken.unrelieved.symm.trans hrelievers)
    | false =>
      have hmember' : HasMember s db plan.date plan.type := by
        rw [hdate, htype]
        exact hmember
      have hraises : raises (reconcileCoverage s date type excludedUserIds requestedPeriod) db =
          raises (reconcilePlan s plan excludedUserIds) db := by
        unfold raises
        rw [reconcileCoverage_unrelieved hread hrelievers]
      rw [hraises]
      rcases raises_reconcilePlan hmember' hrelievers excludedUserIds with ⟨hraises, coverage, userId, htaken⟩ | ⟨hraises, hnone⟩
      · exact .inl ⟨hraises, plan, coverage, userId, hread, htaken⟩
      · refine .inr ⟨hraises, ?_⟩
        rintro ⟨other, coverage, userId, hsome, htaken⟩
        obtain rfl := hplan hread other hsome
        exact hnone coverage userId htaken

/-! ## What a reconciliation leaves of the logs -/

theorem sameLogs_withdraw (current : Option DutyDailyCoverage) (db : DutyDb) : SameLogs db (withdraw current db) := by
  unfold withdraw
  split
  · exact ⟨rfl, rfl⟩
  · split_ifs <;> exact ⟨rfl, rfl⟩

theorem sameLogs_writeProposed (current : Option DutyDailyCoverage) (coverage : DutyDailyCoverage) (db : DutyDb) :
    SameLogs db (writeProposed current coverage db) := by
  unfold writeProposed
  split <;> exact ⟨rfl, rfl⟩

theorem sameLogs_replaceByRelievers (current : Option DutyDailyCoverage) (db : DutyDb) :
    SameLogs db (replaceByRelievers current db) := by
  unfold replaceByRelievers
  split
  · exact ⟨rfl, rfl⟩
  · exact sameLogs_givenUp _ _ _

theorem keeps_logs_propose (current : Option DutyDailyCoverage) :
    Keeps (SameLogs db) (propose s plan reserved excludedUserIds current) := by
  refine triple_bind (Q := fun _ => SameLogs db) (triple_reads (fun _ _ h _ => h) fun _ h => h) fun candidates => ?_
  cases candidates with
  | nil =>
    refine triple_bind (Q := fun _ => SameLogs db) (triple_modify fun _ h => ?_) fun _ => triple_pure fun _ h => h
    exact h.trans (sameLogs_withdraw _ _)
  | cons primaryUserId rest =>
    refine triple_bind (Q := fun _ => SameLogs db) (triple_reads (fun _ _ h _ => h) fun _ h => h) fun coverage => ?_
    refine triple_bind (Q := fun _ => SameLogs db) (triple_modify fun _ h => ?_) fun _ => triple_pure fun _ h => h
    exact h.trans (sameLogs_writeProposed _ _ _)

theorem keeps_logs_reconcileCoverage : Keeps (SameLogs db) (reconcileCoverage s date type excludedUserIds requestedPeriod) := by
  refine triple_bind (Q := fun _ => SameLogs db) (triple_reads (fun _ _ h _ => h) fun _ h => h) fun read => ?_
  match read with
  | none => exact triple_pure fun _ h => h
  | some (plan, true) =>
    refine triple_bind (Q := fun _ => SameLogs db) (triple_modify fun _ h => ?_) fun _ => triple_pure fun _ h => h
    exact h.trans (sameLogs_replaceByRelievers _ _)
  | some (plan, false) =>
    refine triple_bind (Q := fun _ => SameLogs db) (triple_reads (fun _ _ h _ => h) fun _ h => h) fun reserved => ?_
    refine triple_bind (Q := fun _ => SameLogs db) (triple_modifyGet fun a h =>
      h.trans (sameLogs_settle (a, a.coverageOf plan))) fun current => ?_
    split_ifs
    · exact triple_pure fun _ h => h
    · exact keeps_logs_propose current

theorem keeps_logs_reconcileDuty : Keeps (SameLogs db) (reconcileDuty s date type requestedPeriod) :=
  triple_bind keeps_logs_reconcileCoverage fun _ => triple_pure fun _ h => h

/-! ## Every duty of today -/

theorem raises_reconcileDuty : raises (reconcileDuty s date type requestedPeriod) db =
    raises (reconcileCoverage s date type [] requestedPeriod) db :=
  raises_bind_pure ()

/-- The duties of today have their turn one after the other. -/
abbrev todaysTurns (s : Services) (db : DutyDb) : List (DutyDb × DutyType) :=
  turns (fun type => reconcileDuty s s.today type none) (restoreOrphanedDutyAttendance s.today db) DUTY_PRIORITY

theorem sameLogs_turns {db' : DutyDb} : ∀ (types : List DutyType) (db : DutyDb), SameLogs db' db →
    ∀ turn ∈ turns (fun type => reconcileDuty s date type none) db types, SameLogs db' turn.1
  | [], _, _, _, hmem => absurd hmem List.not_mem_nil
  | type :: rest, db, h, turn, hmem => by
    rcases List.mem_cons.mp hmem with rfl | hmem
    · exact h
    · exact sameLogs_turns rest _ (keeps_logs_reconcileDuty.leaves h) turn hmem

theorem raises_reconcileToday (hmember : ∀ type, HasMember s db s.today type) : raises (reconcileToday s) db = none ↔
    (s.officeStart ≤ s.currentTimeMinutes → ∀ turn ∈ todaysTurns s db, ¬ CollidesWithOwnRow s turn.1 s.today turn.2 [] none) := by
  unfold reconcileToday
  by_cases hstarted : s.currentTimeMinutes < s.officeStart
  · rw [if_pos hstarted]
    exact ⟨fun _ h => absurd h (not_le.mpr hstarted), fun _ => rfl⟩
  · rw [if_neg hstarted]
    show raises (DUTY_PRIORITY.forM fun type => reconcileDuty s s.today type none)
      (restoreOrphanedDutyAttendance s.today db) = none ↔ _
    rw [raises_forM]
    have hturn (turn : DutyDb × DutyType) (hmem : turn ∈ todaysTurns s db) :
        raises (reconcileDuty s s.today turn.2 none) turn.1 = none ↔ ¬ CollidesWithOwnRow s turn.1 s.today turn.2 [] none := by
      have hstart : SameLogs db (restoreOrphanedDutyAttendance s.today db) := ⟨rfl, rfl⟩
      have hlogs : SameLogs db turn.1 := sameLogs_turns DUTY_PRIORITY _ hstart turn hmem
      rw [raises_reconcileDuty]
      rcases raises_reconcileCoverage ((hmember turn.2).of_sameLogs hlogs) [] none with ⟨hraises, hcollides⟩ | ⟨hraises, hnot⟩
      · rw [hraises]
        exact ⟨fun h => absurd h (Option.some_ne_none _), fun h => absurd hcollides h⟩
      · exact ⟨fun _ => hnot, fun _ => hraises⟩
    exact ⟨fun h _ turn hmem => (hturn turn hmem).mp (h turn hmem),
      fun h turn hmem => (hturn turn hmem).mpr (h (not_lt.mp hstarted) turn hmem)⟩

/-- A reconciliation keeps the row of every day, duty and period, and writes no second one. -/
theorem reconcileCoverage_rows (hdb : Sane db) (hmem : coverage ∈ db.coverages) :
    ∃ row ∈ (leaves (reconcileCoverage s date type excludedUserIds requestedPeriod) db).coverages,
      row.id = coverage.id ∧ row.key = coverage.key ∧
      ∀ other ∈ (leaves (reconcileCoverage s date type excludedUserIds requestedPeriod) db).coverages,
        other.key = coverage.key → other = row := by
  have hwrites : Writes db (leaves (reconcileCoverage s date type excludedUserIds requestedPeriod) db) :=
    (keeps_reconcileCoverage (writes_closed db) date type excludedUserIds requestedPeriod).leaves .refl
  obtain ⟨hsane, hbeside⟩ := hdb.writes hwrites
  obtain ⟨row, hrow, hid, hkey⟩ := hbeside.rows coverage hmem
  exact ⟨row, hrow, hid, hkey, fun other hother hsame => hsane.keyed.eq_of_key hother hrow (hsame.trans hkey.symm)⟩

/-- **Reconciliation and its own row.** After every run, a reconciliation of a duty with a member in its rotation returns
where its active row is not taken over, and raises the error of the unique key where it is; today's duties are gone
through where no turn meets such a row. The row of a key stays the only one. -/
theorem own_row_is_reused {history : List (Transition DutyDb Event)} (h : Run duties history db) (s : Services) :
    (∀ date type excludedUserIds requestedPeriod, HasMember s db date type →
      (raises (reconcileCoverage s date type excludedUserIds requestedPeriod) db = none ↔
        ¬ CollidesWithOwnRow s db date type excludedUserIds requestedPeriod) ∧
      (raises (reconcileCoverage s date type excludedUserIds requestedPeriod) db = some databaseError ↔
        CollidesWithOwnRow s db date type excludedUserIds requestedPeriod)) ∧
    ((∀ type, HasMember s db s.today type) → (raises (reconcileToday s) db = none ↔ (s.officeStart ≤ s.currentTimeMinutes →
      ∀ turn ∈ todaysTurns s db, ¬ CollidesWithOwnRow s turn.1 s.today turn.2 [] none))) ∧
    ∀ date type excludedUserIds requestedPeriod, ∀ coverage ∈ db.coverages,
      ∃ row ∈ (leaves (reconcileCoverage s date type excludedUserIds requestedPeriod) db).coverages,
        row.id = coverage.id ∧ row.key = coverage.key ∧
        ∀ other ∈ (leaves (reconcileCoverage s date type excludedUserIds requestedPeriod) db).coverages,
          other.key = coverage.key → other = row := by
  refine ⟨fun date type excludedUserIds requestedPeriod hmember => ?_, fun hmember => raises_reconcileToday hmember,
    fun date type excludedUserIds requestedPeriod coverage hmem => reconcileCoverage_rows (alone_of_run h).1 hmem⟩
  rcases raises_reconcileCoverage hmember excludedUserIds requestedPeriod with ⟨hraises, hcollides⟩ | ⟨hraises, hnot⟩
  · rw [hraises]
    exact ⟨⟨fun h => absurd h (Option.some_ne_none _), fun h => absurd hcollides h⟩, ⟨fun _ => hcollides, fun _ => rfl⟩⟩
  · rw [hraises]
    exact ⟨⟨fun _ => hnot, fun _ => rfl⟩, ⟨fun h => absurd h.symm (Option.some_ne_none _), fun h => absurd h hnot⟩⟩

/-! ## An OD whose attendance is edited -/

/-- The first technician is the OD. -/
def odOnDuty : DutyDb := after nineOClock meetingDay [.reconcileToday, .activateCoverage dutyAdministrator 1 1]

theorem run_odOnDuty : ∃ history, Run duties history odOnDuty := by
  obtain ⟨history, hrun, -⟩ := run_operations (P := fun _ _ => True) (s := nineOClock)
    [.reconcileToday, .activateCoverage dutyAdministrator 1 1] run_meetingDay (fun _ _ => trivial) ⟨trivial, trivial, trivial⟩
  exact ⟨history, hrun⟩

instance : Decidable (HasMember s db date type) := by
  unfold HasMember
  infer_instance

theorem row_of_the_od_is_reused : raises (reconcileCoverage nineOClock 0 .OD [] none) odOnDuty = none := by
  obtain ⟨history, hrun⟩ := run_odOnDuty
  have hmember : HasMember nineOClock odOnDuty 0 .OD := by decide +kernel
  refine ((own_row_is_reused hrun nineOClock).1 0 .OD [] none hmember).1.mpr ?_
  rintro ⟨plan, coverage, userId, hplan, htaken⟩
  have hstays : ∀ row ∈ odOnDuty.coverages, isLost nineOClock odOnDuty 0 row = false := by decide +kernel
  have hlost := htaken.lost
  rw [(coveragePlan_eq_some hplan).1, hstays coverage (holds_coverageOf odOnDuty plan coverage htaken.current).1] at hlost
  cases hlost

/-- The first technician is absent after all. -/
def absentOd : List TechAttendance :=
  [{ userId := 1, date := 0, status := .absent }, { userId := 2, date := 0, status := .present, isManualOverride := true }]

/-- The second technician could take over, and today's duties stop at the OD. -/
theorem row_of_the_od_in_the_way : ¬ ∀ (history : List (Transition DutyDb Event)) (db : DutyDb), Run duties history db →
    ∀ (s : Services) (date : Int) (type : DutyType), HasMember s db date type →
      raises (reconcileCoverage s date type [] none) db ≠ some databaseError := by
  intro hall
  obtain ⟨history, hrun⟩ := run_odOnDuty
  have hkeys : (absentOd.map fun row => (row.userId, row.date)).Nodup := by decide
  refine hall _ _ (hrun.step (DutyStep.attendance hkeys)) nineOClock 0 .OD ?_ ?_
  · decide +kernel
  · decide +kernel

end ComplianceHub.Duty
