import ComplianceHub.Tickets.SlaState

/-!
# The SLA verdict of a completed ticket

* `resolutionTiming`, `calculateTicketActiveResolutionHours` : the active hours of a resolution, with the credited
  pauses clipped to it;
* `hasMetResolvedTicketSla` : Met or Missed, as performance, reports and the SLA summary read it;
* `getBuilderSlaResult` : the same for the report builder;
* `hasMetResolvedTicketSla_of_deadline`, `getBuilderSlaResult_met`, `projectTicketSlaState_completed` : over a stored
  deadline each of them, and the projection of the details page, compares it with the effective completion.
-/

namespace ComplianceHub.Tickets

open ComplianceHub.Sla

structure ResolutionTiming where
  elapsedCalendarHours : Rat
  elapsedBusinessHours : Rat
  creditedPauseHours : Rat
  activeHours : Rat
  pauseCount : Option Nat
  estimated : Bool
deriving DecidableEq, Repr

section
variable (s : Services)

/-- Business seconds, or plain ones without a configuration. -/
def elapsedSeconds (config : Option TicketingConfig) (start stop : Int) : Except HttpException Int :=
  match config with
  | some config => calculateBusinessSeconds s.isOfficeDay config start stop
  | none => .ok (max 0 (jsRound ((stop - start : Int) / 1000)))

/-- The credits inside the resolution, and how many there are. A manual-pause allowance credits the first N business
seconds only. -/
def clippedCredits (config : Option TicketingConfig) (start stop : Int) :
    List SlaPauseCredit → Rat × Nat → Except HttpException (Rat × Nat)
  | [], credited => .ok credited
  | interval :: rest, (paused, count) =>
    match interval.startAt.parse, interval.endAt.parse with
    | some startAt, some endAt =>
      let pauseStart := max start startAt
      let pauseEnd := min stop endAt
      if pauseEnd ≤ pauseStart then clippedCredits config start stop rest (paused, count)
      else do
        let seconds ← elapsedSeconds s config pauseStart pauseEnd
        clippedCredits config start stop rest
          (paused + min (interval.creditedSeconds.getD 0) (seconds : Rat), count + 1)
    | _, _ => clippedCredits config start stop rest (paused, count)

/-- What counts as paused before any interval: the total of a ticket without a usable ledger. -/
def legacyPause (t : Ticket) : Rat :=
  match usablePauseLedger t.toTicketSla with
  | some ledger => ledger.legacySeconds.getD 0
  | none => (max 0 t.accumulatedPauseSeconds : Int)

def recordedIntervals (t : Ticket) : List SlaPauseCredit :=
  ((usablePauseLedger t.toTicketSla).map SlaPauseLedger.intervals).getD []

def resolutionTiming (config : Option TicketingConfig) (t : Ticket) (stop : Int) :
    Except HttpException (Option ResolutionTiming) :=
  match t.slaStartedAt with
  | none => .ok none
  | some start => do
    let elapsed ← if start < stop then elapsedSeconds s config start stop else .ok 0
    let legacy := legacyPause t
    let (paused, count) ← clippedCredits s config start stop (recordedIntervals t) (legacy, 0)
    let paused := min (elapsed : Rat) (max 0 paused)
    pure (some {
      elapsedCalendarHours := (max 0 (stop - start) : Int) / 3600000
      elapsedBusinessHours := (elapsed : Rat) / 3600
      creditedPauseHours := paused / 3600
      activeHours := max 0 (elapsed - paused) / 3600
      pauseCount := if 0 < legacy then none else some count
      estimated := t.resolutionTimeOverride.isSome && 0 < legacy })

/-- The timing that `calculateTicketActiveResolutionHours` leaves in the ticket, with the active hours it returns. -/
def calculateTicketActiveResolutionHours (t : Ticket) (resolvedAt : Int) (config : Option TicketingConfig) :
    Except HttpException (Option ResolutionTiming) :=
  resolutionTiming s (config.map fun config => ticketCalendar config t.overtimeSlaDate) t resolvedAt

/-- Match the completed ticket badge; active hours remain the efficiency input. -/
def hasMetResolvedTicketSla (t : Ticket) (activeHours slaHours : Rat) : Bool :=
  match getEffectiveResolvedAt t.toTicketOutcome, t.slaDeadline with
  | some resolvedAt, some deadline => resolvedAt ≤ deadline
  -- Preserve historical reporting for legacy tickets without a usable deadline.
  | _, _ => activeHours ≤ slaHours

structure BuilderSlaResult where
  met : Option Bool
  activeHours : Option Rat
  estimated : Bool
deriving DecidableEq, Repr

def builderTiming (t : Ticket) (stop : Int) (config : TicketingConfig) :
    Except HttpException (Option ResolutionTiming) :=
  if t.slaStartedAt.any fun start => start ≤ stop then
    calculateTicketActiveResolutionHours s t stop (some config)
  else .ok none

def getBuilderSlaResult (t : Ticket) (issue : Option TicketIssueType) (stop : Int) (config : TicketingConfig) :
    Except HttpException BuilderSlaResult := do
  let timing ← builderTiming s t stop config
  let timingHours := timing.map ResolutionTiming.activeHours
  let allowance : Rat := if t.slaDeadline.isSome then 0
    else (issueSlaHours issue).getD (if t.issueTypeId.isNone then 4 else 0)
  pure {
    met := if t.slaDeadline.isSome ∨ (timingHours.isSome ∧ 0 < allowance) then
        some (hasMetResolvedTicketSla t (timingHours.getD 0) allowance)
      else none
    activeHours := timingHours
    estimated := timing.any ResolutionTiming.estimated }

/-! ## Agreement -/

variable {s} {t : Ticket} {completedAt deadline : Int}

theorem hasMetResolvedTicketSla_of_deadline (hcompleted : getEffectiveResolvedAt t.toTicketOutcome = some completedAt)
    (hdeadline : t.slaDeadline = some deadline) (activeHours slaHours : Rat) :
    hasMetResolvedTicketSla t activeHours slaHours = decide (completedAt ≤ deadline) := by
  rw [hasMetResolvedTicketSla, hcompleted, hdeadline]

theorem getBuilderSlaResult_met (hcompleted : getEffectiveResolvedAt t.toTicketOutcome = some completedAt)
    (hdeadline : t.slaDeadline = some deadline) {issue : Option TicketIssueType} {stop : Int} {config : TicketingConfig}
    {result : BuilderSlaResult} (h : getBuilderSlaResult s t issue stop config = .ok result) :
    result.met = some (decide (completedAt ≤ deadline)) := by
  obtain ⟨timing, -, h⟩ := bind_eq_ok.mp h
  cases h
  rw [if_pos (.inl (by simp [hdeadline]))]
  exact congrArg some (hasMetResolvedTicketSla_of_deadline hcompleted hdeadline _ _)

/-- A started clock that stands neither paused nor in the queue is overdue when it completed after its deadline. -/
theorem projectTicketSlaState_completed (hcompleted : getEffectiveResolvedAt t.toTicketOutcome = some completedAt)
    (hdeadline : t.slaDeadline = some deadline) (hstarted : t.slaStartedAt.isSome) (hpaused : t.slaPausedAt = none)
    (hwaiting : t.isSlaWaiting = false) (hstatus : t.status ≠ .duplicate ∧ t.status ≠ .cancelled)
    (issue : Option TicketIssueType) (config : Option TicketingConfig) :
    ∃ state, projectTicketSlaState s t issue config = .ok (t, state) ∧
      state.isOverdue = decide (deadline < completedAt) := by
  have hresume : ∀ config, slaResumeAt s t issue config = .ok none := fun config => by rw [slaResumeAt, hpaused]
  have hprojected : ∀ config, projectedDeadline s t issue config none = .ok none := fun config => by
    simp only [projectedDeadline, hpaused]
  have hrunning : (isSchedulePaused t || isStatusPaused t) = false ∧ isSchedulePaused t = false := by
    simp [isSchedulePaused, isStatusPaused, hpaused]
  refine ⟨slaIndicators s t issue deadline {}, ?_, by rw [slaIndicators, hcompleted]; rfl⟩
  unfold projectTicketSlaState
  dsimp only
  rw [if_neg (by simp [hstatus])]
  refine bind_eq_ok.mpr ⟨none, hresume _, ?_⟩
  split
  case h_1 started stored hstart hstored =>
    obtain rfl : stored = deadline := Option.some.inj (hstored.symm.trans hdeadline)
    refine bind_eq_ok.mpr ⟨none, hprojected _, ?_⟩
    rw [if_neg (by simp [hrunning.1, hwaiting]), hrunning.1, hrunning.2, Option.getD_none, ← hstored]
    rfl
  case h_2 hnot =>
    obtain ⟨start, hstart⟩ := Option.isSome_iff_exists.mp hstarted
    exact absurd hdeadline (hnot _ _ hstart)

end

end ComplianceHub.Tickets
