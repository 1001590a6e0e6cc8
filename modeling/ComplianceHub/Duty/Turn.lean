import ComplianceHub.Duty.Release

/-!
# What the turn of a duty leaves of the rows

* `Rewrites`, `Turn` : a turn leaves the rows, writes the row of its plan over, or adds it;
* `turn_reconcileCoverage` : so it is for every reconciliation of a duty that has a plan;
* `Turn.others`, `Turn.cases` : the rows of the other keys stay, and no row is completed.
-/

namespace ComplianceHub.Duty

open ComplianceHub.Lib

variable {s : Services} {db db' : DutyDb} {plan : CoveragePlan} {coverage saved row : DutyDailyCoverage}
variable {reserved : List (Nat × DutyDailyCoverage)} {excludedUserIds : List Nat}

def CoveragePlan.key (plan : CoveragePlan) : Int × DutyType × DutyPeriod := (plan.date, plan.type, plan.period)

/-- The meeting of a plan without relievers. -/
def IsPlanned (db : DutyDb) (plan : CoveragePlan) (reservationId : Option Nat) : Prop :=
  hasRelievers db plan = false ∧ reservationId = plan.reservations.head?.map DutyMeetingReservation.id

/-- A row that waits or is cancelled, in the place of another. -/
structure Rewrites (db : DutyDb) (plan : CoveragePlan) (coverage saved : DutyDailyCoverage) : Prop where
  id : saved.id = coverage.id
  key : saved.key = coverage.key
  status : saved.status = .cancelled ∨ saved.status = .intervention_required
  meeting : saved.reservationId = coverage.reservationId ∨ IsPlanned db plan saved.reservationId

/-- The rows after the turn of a plan. -/
inductive Turn (db : DutyDb) (plan : CoveragePlan) : List DutyDailyCoverage → Prop
  | stays : Turn db plan db.coverages
  | rewrites {coverage saved : DutyDailyCoverage} : db.coverageOf plan = some coverage → Rewrites db plan coverage saved →
      Turn db plan (db.saveCoverage saved).coverages
  | inserts (id primaryUserId : Nat) : db.coverageOf plan = none → hasRelievers db plan = false →
      Turn db plan (db.coverages ++ [pendingCoverage id plan primaryUserId])

/-! ## The steps of a turn -/

/-- Of two rows with one identifier, the last is written. -/
theorem saveCoverage_coverages (hid : saved.id = coverage.id) (hsame : db'.coverages = (db.saveCoverage coverage).coverages) :
    (db'.saveCoverage saved).coverages = (db.saveCoverage saved).coverages := by
  unfold DutyDb.saveCoverage at hsame ⊢
  dsimp only at hsame ⊢
  rw [hsame, List.map_map]
  refine List.map_congr_left fun row _ => ?_
  rw [Function.comp_apply]
  by_cases hrow : row.id = saved.id
  · rw [if_pos (hrow.trans hid), if_pos hid.symm, if_pos hrow]
  · have hother : row.id ≠ coverage.id := fun h => hrow (h.trans hid.symm)
    rw [if_neg hother, if_neg hrow]

theorem saveCoverage_congr (hsame : db'.coverages = db.coverages) (saved : DutyDailyCoverage) :
    (db'.saveCoverage saved).coverages = (db.saveCoverage saved).coverages := by
  unfold DutyDb.saveCoverage
  rw [hsame]

theorem withdraw_cases (coverage : DutyDailyCoverage) (db : DutyDb) : withdraw (some coverage) db = db ∨
    withdraw (some coverage) db = db.saveCoverage { coverage with status := .cancelled } := by
  unfold withdraw
  dsimp only
  split_ifs
  · exact .inr rfl
  · exact .inl rfl

/-- A row in memory, which is the row of the plan or is written over it. -/
inductive Kept (db : DutyDb) (plan : CoveragePlan) (coverage : DutyDailyCoverage) : Current → Prop
  | asRead {db' : DutyDb} : db'.coverages = db.coverages → Kept db plan coverage (db', some coverage)
  | written {db' : DutyDb} {saved : DutyDailyCoverage} : Rewrites db plan coverage saved →
      db'.coverages = (db.saveCoverage saved).coverages → Kept db plan coverage (db', some saved)

theorem coverageOf_key (h : db.coverageOf plan = some coverage) : coverage ∈ db.coverages ∧ coverage.key = plan.key :=
  holds_coverageOf db plan coverage h

section
variable (hcurrent : db.coverageOf plan = some coverage)
include hcurrent

theorem rewrites_pending (hunrelieved : hasRelievers db plan = false) (primaryUserId : Nat) :
    Rewrites db plan coverage (pendingCoverage coverage.id plan primaryUserId) where
  id := rfl
  key := (coverageOf_key hcurrent).2.symm
  status := .inr rfl
  meeting := .inr ⟨hunrelieved, rfl⟩

/-- A technician is proposed in the row that is kept, or the row is withdrawn. -/
theorem turn_propose (hunrelieved : hasRelievers db plan = false) {c : Current} (h : Kept db plan coverage c) :
    Turn db plan (leaves (propose s plan reserved excludedUserIds c.2) c.1).coverages := by
  have hstays : Turn db plan c.1.coverages := by
    cases h with
    | asRead hsame =>
      rw [hsame]
      exact .stays
    | written hsaved hsame =>
      rw [hsame]
      exact .rewrites hcurrent hsaved
  have hover (saved : DutyDailyCoverage) (hid : saved.id = coverage.id) :
      (c.1.saveCoverage saved).coverages = (db.saveCoverage saved).coverages := by
    cases h with
    | asRead hsame => exact saveCoverage_congr hsame saved
    | written hold hsame => exact saveCoverage_coverages (hid.trans hold.id.symm) hsame
  obtain ⟨held, hheld, hid, hkey, hmeeting⟩ : ∃ held, c.2 = some held ∧ held.id = coverage.id ∧ held.key = coverage.key ∧
      (held.reservationId = coverage.reservationId ∨ IsPlanned db plan held.reservationId) := by
    cases h with
    | asRead _ => exact ⟨coverage, rfl, rfl, rfl, .inl rfl⟩
    | written hsaved _ => exact ⟨_, rfl, hsaved.id, hsaved.key, hsaved.meeting⟩
  unfold leaves
  rw [hheld]
  cases hcandidates : dutyCandidates s c.1 plan reserved excludedUserIds with
  | error e =>
    rw [propose_error hcandidates]
    exact hstays
  | ok candidates =>
    cases candidates with
    | nil =>
      rw [propose_nil hcandidates]
      dsimp only
      rcases withdraw_cases held c.1 with hsame | hsame
      · rw [hsame]
        exact hstays
      · rw [hsame, hover { held with status := .cancelled } hid]
        exact .rewrites hcurrent ⟨hid, hkey, .inl rfl, hmeeting⟩
    | cons primaryUserId rest =>
      have hrow : proposed c.1 plan primaryUserId (some held) = .ok (pendingCoverage held.id plan primaryUserId) := rfl
      rw [propose_cons hcandidates hrow]
      show Turn db plan (c.1.saveCoverage (pendingCoverage held.id plan primaryUserId)).coverages
      rw [hid, hover (pendingCoverage coverage.id plan primaryUserId) rfl]
      exact .rewrites hcurrent (rewrites_pending hcurrent hunrelieved primaryUserId)

/-- The row of a plan that is not lost is kept. -/
theorem kept_settled (h : keptFor (reservedByPriorDuty db plan) coverage = none → isLost s db plan.date coverage = false) :
    Kept db plan coverage (settled s db plan) := by
  unfold settled
  rw [hcurrent]
  cases hkept : keptFor (reservedByPriorDuty db plan) coverage with
  | some prior =>
    obtain ⟨userId, huser, hprior⟩ := Option.bind_eq_some_iff.mp hkept
    rw [settle_yields huser hprior]
    exact .written ⟨rfl, rfl, .inl rfl, .inl rfl⟩ (saveCoverage_congr (handOver_coverages _ _ _ _ _) _)
  | none =>
    rw [settle_kept hkept (h hkept)]
    unfold endSubstitute
    dsimp only
    split_ifs
    · exact .written ⟨rfl, rfl, .inr rfl, .inl rfl⟩ (saveCoverage_congr (restoreAttendance_coverages _ _) _)
    · exact .asRead rfl

end

theorem turn_reconcilePlan (hunrelieved : hasRelievers db plan = false) (excludedUserIds : List Nat) :
    Turn db plan (leaves (reconcilePlan s plan excludedUserIds) db).coverages := by
  cases hcurrent : db.coverageOf plan with
  | none =>
    have hsettled : settled s db plan = (db, none) := by
      unfold settled
      rw [hcurrent]
      rfl
    unfold leaves
    rw [reconcilePlan_eq, hsettled]
    show Turn db plan (leaves (propose s plan (reservedByPriorDuty db plan) excludedUserIds none) db).coverages
    unfold leaves
    cases hcandidates : dutyCandidates s db plan (reservedByPriorDuty db plan) excludedUserIds with
    | error e =>
      rw [propose_error hcandidates]
      exact .stays
    | ok candidates =>
      cases candidates with
      | nil =>
        rw [propose_nil hcandidates]
        exact .stays
      | cons primaryUserId rest =>
        have hrow : proposed db plan primaryUserId none = .ok (pendingCoverage db.nextId plan primaryUserId) := by
          unfold proposed
          dsimp only
          rw [hcurrent]
        rw [propose_cons hcandidates hrow]
        exact .inserts db.nextId primaryUserId hcurrent hunrelieved
  | some coverage =>
    by_cases hlost : keptFor (reservedByPriorDuty db plan) coverage = none ∧ isLost s db plan.date coverage = true
    · rw [leaves_lost ⟨hunrelieved, hcurrent, hlost.1⟩ hlost.2, saveCoverage_congr (restoreAttendance_coverages _ _)]
      exact .rewrites hcurrent ⟨rfl, rfl, .inl rfl, .inl rfl⟩
    · have hkept : Kept db plan coverage (settled s db plan) := kept_settled hcurrent fun hfree =>
        Bool.eq_false_iff.mpr fun hisLost => hlost ⟨hfree, hisLost⟩
      unfold leaves
      rw [reconcilePlan_eq]
      split_ifs
      · generalize settled s db plan = c at hkept
        cases hkept with
        | @asRead db' hsame =>
          show Turn db plan db'.coverages
          rw [hsame]
          exact .stays
        | @written db' saved hsaved hsame =>
          show Turn db plan db'.coverages
          rw [hsame]
          exact .rewrites hcurrent hsaved
      · exact turn_propose hcurrent hunrelieved hkept

theorem turn_replaceByRelievers : Turn db plan (replaceByRelievers (db.coverageOf plan) db).coverages := by
  cases hcurrent : db.coverageOf plan with
  | none => exact .stays
  | some coverage =>
    show Turn db plan ((restoreAttendance coverage db).saveCoverage (cancelledForRelievers coverage)).coverages
    rw [saveCoverage_congr (restoreAttendance_coverages _ _)]
    exact .rewrites hcurrent ⟨rfl, rfl, .inl rfl, .inl rfl⟩

/-! ## A turn -/

section
variable {date : Int} {type : DutyType} {requestedPeriod : Option DutyPeriod}

/-- A duty without a plan is left as it is. -/
theorem leaves_unplanned (hplan : coveragePlan db date type requestedPeriod = none) (excludedUserIds : List Nat) :
    leaves (reconcileCoverage s date type excludedUserIds requestedPeriod) db = db := by
  unfold leaves reconcileCoverage
  rw [reads_bind_ok (a := none)]
  · rfl
  · rw [hplan]
    rfl

theorem leaves_relieved (hplan : coveragePlan db date type requestedPeriod = some plan) (h : hasRelievers db plan = true)
    (excludedUserIds : List Nat) : leaves (reconcileCoverage s date type excludedUserIds requestedPeriod) db =
      replaceByRelievers (db.coverageOf plan) db := by
  unfold leaves reconcileCoverage
  rw [reads_bind_ok (a := some (plan, true))]
  · rfl
  · rw [hplan, Option.map_some, h]

theorem turn_reconcileCoverage (hplan : coveragePlan db date type requestedPeriod = some plan) (excludedUserIds : List Nat) :
    Turn db plan (leaves (reconcileCoverage s date type excludedUserIds requestedPeriod) db).coverages := by
  cases hrelievers : hasRelievers db plan with
  | true =>
    rw [leaves_relieved hplan hrelievers]
    exact turn_replaceByRelievers
  | false =>
    rw [leaves_unrelieved hplan hrelievers]
    exact turn_reconcilePlan hrelievers excludedUserIds

end

theorem Turn.others {rows : List DutyDailyCoverage} (h : Turn db plan rows) (hdb : Keyed db) (hrow : row ∈ db.coverages)
    (hkey : row.key ≠ plan.key) : row ∈ rows := by
  cases h with
  | stays => exact hrow
  | @rewrites coverage saved hcurrent hsaved =>
    obtain ⟨hmem, hcoverageKey⟩ := coverageOf_key hcurrent
    refine saveCoverage_keeps hrow fun hid => hkey ?_
    rw [hdb.eq_coverage hrow hmem (hid.trans hsaved.id)]
    exact hcoverageKey
  | inserts _ _ _ _ => exact List.mem_append_left _ hrow

/-- A row is as it was, or waits or is cancelled in the place of the plan. -/
theorem Turn.cases {rows : List DutyDailyCoverage} (h : Turn db plan rows) (hrow : row ∈ rows) : row ∈ db.coverages ∨
    row.key = plan.key ∧ (row.status = .cancelled ∨ row.status = .intervention_required) ∧
      (IsPlanned db plan row.reservationId ∨ ∃ old ∈ db.coverages, old.key = plan.key ∧ row.reservationId = old.reservationId) := by
  cases h with
  | stays => exact .inl hrow
  | @rewrites coverage saved hcurrent hsaved =>
    obtain ⟨hmem, hkey⟩ := coverageOf_key hcurrent
    rcases mem_saveCoverage hrow with rfl | ⟨hrow, -⟩
    · refine .inr ⟨hsaved.key.trans hkey, hsaved.status, ?_⟩
      rcases hsaved.meeting with hmeeting | hmeeting
      · exact .inr ⟨coverage, hmem, hkey, hmeeting⟩
      · exact .inl hmeeting
    · exact .inl hrow
  | inserts id primaryUserId _ hunrelieved =>
    rcases List.mem_append.mp hrow with hrow | hrow
    · exact .inl hrow
    · rw [List.mem_singleton.mp hrow]
      exact .inr ⟨rfl, .inr rfl, .inl ⟨hunrelieved, rfl⟩⟩

end ComplianceHub.Duty
