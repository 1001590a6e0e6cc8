import ComplianceHub.Tickets.Operation

/-!
# The three SLA buckets of an active ticket

* `applyActiveTicketSlaFilter` : the list filters `overdue`, `nearing_sla` and `on_track`, as MySQL evaluates them;
* `flaggedBucket`, `countInSummary`, `getSlaSummary` : the bucket of the flags, and the counters of the summary;
* `exactly_one_filter` : one filter selects each active ticket;
* `projectTicketSlaState_active` : the flags of an active ticket;
* `sla_buckets_agree_iff` : when filter, counter and flags are the same bucket.
-/

namespace ComplianceHub.Tickets

open ComplianceHub.Sla

inductive ActiveTicketSlaState where
  | overdue
  | nearing_sla
  | on_track
deriving DecidableEq, Repr

/-! ## The filters -/

/-- `TIMESTAMPDIFF(SECOND, a, b)`: the whole seconds from `a` to `b`. -/
def timestampDiffSeconds (a b : Int) : Int := (b - a).tdiv 1000

/-- `COALESCE(issueTypeConfig.slaHours * 3600, TIMESTAMPDIFF(SECOND, t.slaStartedAt, t.slaDeadline))`. -/
def totalSlaSeconds (issue : Option TicketIssueType) (slaStartedAt slaDeadline : Int) : Rat :=
  match issue.bind TicketIssueType.slaHours with
  | some slaHours => slaHours * 3600
  | none => timestampDiffSeconds slaStartedAt slaDeadline

/-- The rows that a filter selects at `slaNow`. -/
def applyActiveTicketSlaFilter (t : Ticket) (issue : Option TicketIssueType) (slaNow : Int)
    (slaState : ActiveTicketSlaState) : Bool :=
  match t.slaDeadline, t.slaStartedAt with
  | some slaDeadline, some slaStartedAt =>
    let remainingSlaSeconds : Rat := timestampDiffSeconds slaNow slaDeadline
    let nearingSeconds := totalSlaSeconds issue slaStartedAt slaDeadline * (2 / 5)
    t.status = .in_progress && t.slaPausedAt = none && !t.isSlaWaiting &&
      match slaState with
      | .overdue => slaDeadline ≤ slaNow
      | .nearing_sla => slaNow < slaDeadline && remainingSlaSeconds ≤ nearingSeconds
      | .on_track => slaNow < slaDeadline && nearingSeconds < remainingSlaSeconds
  | _, _ => false

/-! ## The summary -/

/-- The bucket that the flags name. -/
def flaggedBucket (slaState : TicketSlaState) : ActiveTicketSlaState :=
  if slaState.isOverdue then .overdue else if slaState.isNearingSLA then .nearing_sla else .on_track

structure SlaSummary where
  activeWithSla : Nat := 0
  overdueActive : Nat := 0
  nearingActive : Nat := 0
  onTrackActive : Nat := 0
deriving DecidableEq, Repr

/-- The bucket in which `getSlaSummary` counts a ticket, if in any. -/
def countInSummary (t : Ticket) (slaState : TicketSlaState) : Option ActiveTicketSlaState :=
  if t.status = .in_progress && !slaState.slaPaused && !t.isSlaWaiting then some (flaggedBucket slaState) else none

def SlaSummary.add (summary : SlaSummary) : Option ActiveTicketSlaState → SlaSummary
  | some .overdue =>
    { summary with activeWithSla := summary.activeWithSla + 1, overdueActive := summary.overdueActive + 1 }
  | some .nearing_sla =>
    { summary with activeWithSla := summary.activeWithSla + 1, nearingActive := summary.nearingActive + 1 }
  | some .on_track =>
    { summary with activeWithSla := summary.activeWithSla + 1, onTrackActive := summary.onTrackActive + 1 }
  | none => summary

section
variable (s : Services)

/-- The counters of the active tickets, over the rows with a started clock. -/
def getSlaSummary : List Ticket → Except HttpException SlaSummary
  | [] => .ok {}
  | t :: tickets => do
    let (t, slaState) ← projectTicketSlaState s t (issueTypeConfig s t.toTicketRouting) s.config
    let summary ← getSlaSummary tickets
    pure (summary.add (countInSummary t slaState))

end

/-! ## An active ticket -/

/-- In Progress, on a started clock with a deadline, neither paused nor waiting. -/
structure OnActiveClock (t : Ticket) (slaStartedAt slaDeadline : Int) : Prop where
  status : t.status = .in_progress
  slaStartedAt : t.slaStartedAt = some slaStartedAt
  slaDeadline : t.slaDeadline = some slaDeadline
  slaPausedAt : t.slaPausedAt = none
  isSlaWaiting : t.isSlaWaiting = false

variable {s : Services} {t : Ticket} {slaStartedAt slaDeadline : Int}

theorem OnActiveClock.filter_eq (h : OnActiveClock t slaStartedAt slaDeadline) (issue : Option TicketIssueType)
    (slaNow : Int) (slaState : ActiveTicketSlaState) : applyActiveTicketSlaFilter t issue slaNow slaState =
      match slaState with
      | .overdue => decide (slaDeadline ≤ slaNow)
      | .nearing_sla => decide (slaNow < slaDeadline) &&
          decide ((timestampDiffSeconds slaNow slaDeadline : Rat) ≤ totalSlaSeconds issue slaStartedAt slaDeadline * (2 / 5))
      | .on_track => decide (slaNow < slaDeadline) &&
          decide (totalSlaSeconds issue slaStartedAt slaDeadline * (2 / 5) < timestampDiffSeconds slaNow slaDeadline) := by
  unfold applyActiveTicketSlaFilter
  rw [h.slaDeadline, h.slaStartedAt]
  simp only [h.status, h.slaPausedAt, h.isSlaWaiting, decide_true, Bool.not_false, Bool.and_self, Bool.true_and]

/-- Exactly one of the filters selects an active ticket. -/
theorem exactly_one_filter (h : OnActiveClock t slaStartedAt slaDeadline) (issue : Option TicketIssueType) (slaNow : Int) :
    ∃! slaState, applyActiveTicketSlaFilter t issue slaNow slaState = true := by
  by_cases hdue : slaDeadline ≤ slaNow
  · refine ⟨.overdue, by simp [h.filter_eq, hdue], fun slaState hs => ?_⟩
    simp only [h.filter_eq] at hs
    cases slaState with
    | overdue => rfl
    | nearing_sla => simp [not_lt.mpr hdue] at hs
    | on_track => simp [not_lt.mpr hdue] at hs
  · have hdue := not_le.mp hdue
    by_cases hnear : (timestampDiffSeconds slaNow slaDeadline : Rat) ≤
        totalSlaSeconds issue slaStartedAt slaDeadline * (2 / 5)
    · refine ⟨.nearing_sla, by simp [h.filter_eq, hdue, hnear], fun slaState hs => ?_⟩
      simp only [h.filter_eq] at hs
      cases slaState with
      | overdue => exact absurd (of_decide_eq_true hs) (not_le.mpr hdue)
      | nearing_sla => rfl
      | on_track => simp [not_lt.mpr hnear] at hs
    · refine ⟨.on_track, by simp [h.filter_eq, hdue, not_le.mp hnear], fun slaState hs => ?_⟩
      simp only [h.filter_eq] at hs
      cases slaState with
      | overdue => exact absurd (of_decide_eq_true hs) (not_le.mpr hdue)
      | nearing_sla => simp [hnear] at hs
      | on_track => rfl

/-- The flags of an active ticket; its row is left as it is. -/
theorem projectTicketSlaState_active (h : OnActiveClock t slaStartedAt slaDeadline) (issue : Option TicketIssueType)
    (config : Option TicketingConfig) :
    projectTicketSlaState s t issue config = .ok (t, slaIndicators s t issue slaDeadline {}) := by
  have hschedule : isSchedulePaused t = false := by
    unfold isSchedulePaused
    rw [h.slaPausedAt]
  have hstatus : isStatusPaused t = false := by
    unfold isStatusPaused
    rw [h.slaPausedAt]
    rfl
  have hresume : ∀ config, slaResumeAt s t issue config = .ok none := by
    intro config
    unfold slaResumeAt
    rw [h.slaPausedAt]
  have hprojected : ∀ config, projectedDeadline s t issue config none = .ok none := by
    intro config
    unfold projectedDeadline
    rw [h.slaPausedAt]
  unfold projectTicketSlaState
  dsimp only
  rw [if_neg (by rw [h.status]; decide), hresume]
  simp only [bind, Except.bind]
  split
  · rename_i started stored hstarted hstored
    obtain rfl : slaDeadline = stored := Option.some.inj (h.slaDeadline.symm.trans hstored)
    rw [hprojected, hschedule, hstatus]
    dsimp only
    rw [if_neg (by rw [h.isSlaWaiting]; decide), Option.getD_none, ← hstored]
    rfl
  · rename_i hnot
    exact absurd h.slaDeadline (hnot _ _ h.slaStartedAt)

/-! ## When the three agree -/

/-- 40 percent of the allowance, as the flags and as the filters compute it, in milliseconds. -/
def nearingMs (issue : Option TicketIssueType) (slaStartedAt slaDeadline : Int) : Rat :=
  (match issueSlaHours issue with
    | some slaHours => slaHours * 3600 * 1000
    | none => ((slaDeadline - slaStartedAt : Int) : Rat)) * (2 / 5)

/-- The first millisecond of remaining time whose whole seconds lie above the filters' 40 percent. -/
def onTrackFromMs (issue : Option TicketIssueType) (slaStartedAt slaDeadline : Int) : Int :=
  (⌊totalSlaSeconds issue slaStartedAt slaDeadline * (2 / 5)⌋ + 1) * 1000

/-- Where the classifications coincide. Without a resolution time: off the deadline itself, and before it with the
remaining milliseconds not between the two thresholds. With one, the flags look at it and the filters at the clock. -/
def ClassifiedAlike (t : Ticket) (issue : Option TicketIssueType) (slaStartedAt slaDeadline now : Int) : Prop :=
  match getEffectiveResolvedAt t.toTicketOutcome with
  | none => now ≠ slaDeadline ∧ (now < slaDeadline →
      ¬ (nearingMs issue slaStartedAt slaDeadline < ((slaDeadline - now : Int) : Rat) ∧
          slaDeadline - now < onTrackFromMs issue slaStartedAt slaDeadline) ∧
      ¬ (onTrackFromMs issue slaStartedAt slaDeadline ≤ slaDeadline - now ∧
          ((slaDeadline - now : Int) : Rat) ≤ nearingMs issue slaStartedAt slaDeadline))
  | some resolvedAt => if slaDeadline ≤ now then slaDeadline < resolvedAt
      else resolvedAt ≤ slaDeadline ∧ onTrackFromMs issue slaStartedAt slaDeadline ≤ slaDeadline - now

/-- The whole seconds that remain are within the filters' 40 percent until the threshold. -/
theorem timestampDiffSeconds_le_iff {now : Int} (issue : Option TicketIssueType) (hnow : now < slaDeadline) :
    (timestampDiffSeconds now slaDeadline : Rat) ≤ totalSlaSeconds issue slaStartedAt slaDeadline * (2 / 5) ↔
      slaDeadline - now < onTrackFromMs issue slaStartedAt slaDeadline := by
  unfold timestampDiffSeconds onTrackFromMs
  rw [Int.tdiv_eq_ediv_of_nonneg (by omega), ← Int.le_floor]
  omega

theorem OnActiveClock.flaggedBucket_eq (h : OnActiveClock t slaStartedAt slaDeadline) (issue : Option TicketIssueType) :
    flaggedBucket (slaIndicators s t issue slaDeadline {}) =
      match getEffectiveResolvedAt t.toTicketOutcome with
      | none => if slaDeadline < s.now then .overdue
          else if ((slaDeadline - s.now : Int) : Rat) ≤ nearingMs issue slaStartedAt slaDeadline then .nearing_sla
          else .on_track
      | some resolvedAt => if slaDeadline < resolvedAt then .overdue else .on_track := by
  have hclock : getSlaClockStartedAt t = slaStartedAt := by
    unfold getSlaClockStartedAt
    rw [h.slaStartedAt]
    rfl
  unfold flaggedBucket slaIndicators nearingMs
  rw [hclock]
  cases getEffectiveResolvedAt t.toTicketOutcome with
  | none =>
    by_cases hdue : slaDeadline < s.now
    · simp [hdue]
    · rw [if_neg hdue]
      cases issueSlaHours issue with
      | none =>
        by_cases hnear : ((slaDeadline - s.now : Int) : Rat) ≤ ((slaDeadline - slaStartedAt : Int) : Rat) * (2 / 5)
        · rw [if_pos hnear]
          simp only [Option.getD_none, hdue, hnear, decide_false, decide_true, Bool.false_eq_true, if_false, if_true,
            Bool.not_false, Option.isNone_none, Bool.and_self]
        · rw [if_neg hnear]
          simp only [Option.getD_none, hdue, hnear, decide_false, Bool.false_eq_true, if_false, Bool.and_false]
      | some slaHours =>
        by_cases hnear : ((slaDeadline - s.now : Int) : Rat) ≤ slaHours * 3600 * 1000 * (2 / 5)
        · rw [if_pos hnear]
          simp only [Option.getD_none, hdue, hnear, decide_false, decide_true, Bool.false_eq_true, if_false, if_true,
            Bool.not_false, Option.isNone_none, Bool.and_self]
        · rw [if_neg hnear]
          simp only [Option.getD_none, hdue, hnear, decide_false, Bool.false_eq_true, if_false, Bool.and_false]
  | some resolvedAt =>
    by_cases hdue : slaDeadline < resolvedAt
    · simp [hdue]
    · simp [hdue]

/-- The filter of the flagged bucket selects the ticket exactly where both classify alike. -/
theorem OnActiveClock.filter_flaggedBucket_iff (h : OnActiveClock t slaStartedAt slaDeadline)
    (issue : Option TicketIssueType) :
    applyActiveTicketSlaFilter t issue s.now (flaggedBucket (slaIndicators s t issue slaDeadline {})) = true ↔
      ClassifiedAlike t issue slaStartedAt slaDeadline s.now := by
  rw [h.flaggedBucket_eq, h.filter_eq]
  unfold ClassifiedAlike
  cases getEffectiveResolvedAt t.toTicketOutcome with
  | none =>
    dsimp only
    rcases lt_trichotomy slaDeadline s.now with hdue | hdue | hdue
    · rw [if_pos hdue]
      simp [hdue.le, hdue.ne', hdue.not_gt]
    · -- at the deadline the filters say overdue, the flags do not
      rw [if_neg hdue.not_lt]
      refine iff_of_false ?_ fun hc => hc.1 hdue.symm
      split_ifs <;> simp [hdue]
    · rw [if_neg hdue.not_gt]
      have hiff := @timestampDiffSeconds_le_iff slaStartedAt slaDeadline s.now issue hdue
      by_cases hnear : ((slaDeadline - s.now : Int) : Rat) ≤ nearingMs issue slaStartedAt slaDeadline
      · rw [if_pos hnear]
        simp only [hdue, decide_true, Bool.true_and, decide_eq_true_eq, hiff, hdue.ne, ne_eq, not_false_eq_true, true_and,
          forall_true_left, not_lt.mpr hnear, false_and, hnear, and_true, not_le]
      · rw [if_neg hnear]
        have hlt := (not_congr hiff).trans not_lt
        rw [not_le] at hlt
        simp only [hdue, decide_true, Bool.true_and, decide_eq_true_eq, hlt, hdue.ne, ne_eq, not_false_eq_true,
          forall_true_left, hnear, not_le.mp hnear, true_and, and_false, and_true, not_lt]
  | some resolvedAt =>
    dsimp only
    by_cases hdue : slaDeadline ≤ s.now
    · rw [if_pos hdue]
      by_cases hresolved : slaDeadline < resolvedAt
      · simp [hresolved, hdue]
      · simp [hresolved, not_lt.mpr hdue]
    · rw [if_neg hdue]
      have hdue := not_le.mp hdue
      have hlt := (not_congr (@timestampDiffSeconds_le_iff slaStartedAt slaDeadline s.now issue hdue)).trans not_lt
      rw [not_le] at hlt
      by_cases hresolved : slaDeadline < resolvedAt
      · rw [if_pos hresolved]
        exact iff_of_false (by simp [hdue]) fun hc => absurd hc.1 (not_le.mpr hresolved)
      · rw [if_neg hresolved]
        simp only [hdue, decide_true, Bool.true_and, decide_eq_true_eq, hlt, not_lt.mp hresolved, true_and]

theorem OnActiveClock.countInSummary_eq (h : OnActiveClock t slaStartedAt slaDeadline) (issue : Option TicketIssueType) :
    countInSummary t (slaIndicators s t issue slaDeadline {}) =
      some (flaggedBucket (slaIndicators s t issue slaDeadline {})) := by
  unfold countInSummary
  rw [h.status, h.isSlaWaiting]
  rfl

/-- The three SLA buckets: one filter selects an active ticket, the summary counts the ticket by its flags, and that
bucket is the filter's exactly where both classify alike. -/
theorem sla_buckets_agree_iff (s : Services) {t : Ticket} {slaStartedAt slaDeadline : Int}
    (h : OnActiveClock t slaStartedAt slaDeadline) :
    (∃! slaState, applyActiveTicketSlaFilter t (issueTypeConfig s t.toTicketRouting) s.now slaState = true) ∧
    ∃ slaState, projectTicketSlaState s t (issueTypeConfig s t.toTicketRouting) s.config = .ok (t, slaState) ∧
      countInSummary t slaState = some (flaggedBucket slaState) ∧
      (applyActiveTicketSlaFilter t (issueTypeConfig s t.toTicketRouting) s.now (flaggedBucket slaState) = true ↔
        ClassifiedAlike t (issueTypeConfig s t.toTicketRouting) slaStartedAt slaDeadline s.now) :=
  ⟨exactly_one_filter h _ _, _, projectTicketSlaState_active h _ _, h.countInSummary_eq _, h.filter_flaggedBucket_iff _⟩

/-- A ticket on an issue of four hours, from 08:00 until noon. -/
def untilNoon : Ticket where
  id := 1
  requesterId := 1
  assignedToId := some 2
  categoryId := some 1
  issueTypeId := some 1
  priority := some .medium
  status := .in_progress
  createdAt := 0
  slaStartedAt := some 0
  slaDeadline := some 14400000

theorem onActiveClock_untilNoon : OnActiveClock untilNoon 0 14400000 := ⟨rfl, rfl, rfl, rfl, rfl⟩

/-- At 11:00 the three agree. -/
theorem sla_buckets_agree_at_eleven : ∃ slaState,
    projectTicketSlaState (office 10800000) untilNoon (issueTypeConfig (office 10800000) untilNoon.toTicketRouting)
        (office 10800000).config = .ok (untilNoon, slaState) ∧
      countInSummary untilNoon slaState = some (flaggedBucket slaState) ∧
      (applyActiveTicketSlaFilter untilNoon (issueTypeConfig (office 10800000) untilNoon.toTicketRouting)
          (office 10800000).now (flaggedBucket slaState) = true ↔
        ClassifiedAlike untilNoon (issueTypeConfig (office 10800000) untilNoon.toTicketRouting) 0 14400000
          (office 10800000).now) :=
  (sla_buckets_agree_iff (office 10800000) onActiveClock_untilNoon).2

/-- At noon, its deadline, the list filter `overdue` selects the ticket, its row is flagged as nearing its deadline and
the summary counts it so. -/
theorem at_the_deadline_overdue_and_nearing :
    OnActiveClock untilNoon 0 14400000 ∧
    applyActiveTicketSlaFilter untilNoon (issueTypeConfig (office 14400000) untilNoon.toTicketRouting) 14400000
      .overdue = true ∧
    projectTicketSlaState (office 14400000) untilNoon (issueTypeConfig (office 14400000) untilNoon.toTicketRouting)
      (office 14400000).config = .ok (untilNoon, { isOverdue := false, isNearingSLA := true }) ∧
    countInSummary untilNoon { isOverdue := false, isNearingSLA := true } = some .nearing_sla :=
  ⟨⟨rfl, rfl, rfl, rfl, rfl⟩, by decide +kernel, by decide +kernel, rfl⟩

end ComplianceHub.Tickets
