import ComplianceHub.Tickets.PauseLedger

/-!
# The SLA state of a ticket

The deadline helpers of `TicketService`, over the clock of `Sla.Clock`.

* `calculateTicketSlaDeadline`, `recalculateTicketSlaAfterRoutingChange` : the deadline of a clock that starts, and
  of a ticket whose issue changes;
* `applySlaResume` : the end of a work-schedule pause;
* `projectTicketSlaState` : the SLA indicators of a ticket that is read. It also rewrites the loaded entity's
  deadline while the ticket is paused.
-/

namespace ComplianceHub.Tickets

open ComplianceHub.Sla

def capManualPauseBusinessSeconds (previousStatus : TicketStatus) (businessSeconds : Int)
    (allowablePauseHours : Option Int) : Int :=
  match allowablePauseHours with
  | some hours => if previousStatus = .pause then min businessSeconds (max 0 hours * 3600) else businessSeconds
  | none => businessSeconds

def getSlaClockStartedAt (t : Ticket) : Int := (t.slaStartedAt <|> t.lastAssignedAt).getD t.createdAt

def getSlaHoursIncludingCreditedPause (slaHours : Rat) (accumulatedPauseSeconds : Int) : Rat :=
  max 0 slaHours + (max 0 accumulatedPauseSeconds : Int) / 3600

def getEffectiveResolvedAt (t : TicketOutcome) : Option Int := t.resolutionTimeOverride <|> t.resolvedAt

/-- The issue's SLA hours, when it sets any. -/
def issueSlaHours (issueTypeConfig : Option TicketIssueType) : Option Rat :=
  (issueTypeConfig.bind TicketIssueType.slaHours).filter fun hours => hours ≠ 0

section
variable (s : Services)

/-- `settingsService.getIssueTypeById`. -/
def getIssueTypeById (id : Nat) : Option TicketIssueType := (s.issueTypes id).filter fun issue => !issue.isDeleted

/-- The loaded relation `issueTypeConfig`. -/
def issueTypeConfig (t : TicketRouting) : Option TicketIssueType := t.issueTypeId.bind s.issueTypes

/-- The hours of the loaded relation, else of the stored issue; 4 without an issue; 0 for an issue without SLA. -/
def getTicketSlaHours (issueTypeConfig : Option TicketIssueType) (issueTypeId : Option Nat) : Rat :=
  match issueSlaHours issueTypeConfig, issueTypeId with
  | some hours, _ => hours
  | none, some id => (issueSlaHours (getIssueTypeById s id)).getD 0
  | none, none => 4

def ticketCalendar (config : TicketingConfig) (overtimeSlaDate : Option Int) : TicketingConfig :=
  match overtimeSlaDate with
  | some date => { config with overtimeSlaDate := some date }
  | none => config

/-- `new Date(start.getTime() + hours * 60 * 60 * 1000)`. -/
def addHours (start : Int) (hours : Rat) : Int := ⌊(start : Rat) + hours * 60 * 60 * 1000⌋

/-- The deadline of a clock that starts at `start`; none when the issue has no SLA. -/
def calculateTicketSlaDeadline (issueTypeConfig : Option TicketIssueType) (issueTypeId : Option Nat)
    (overtimeSlaDate : Option Int) (start : Int) : Except HttpException (Option Int) :=
  let slaHours := getTicketSlaHours s issueTypeConfig issueTypeId
  if slaHours = 0 then .ok none
  else match s.config with
    | some config =>
      (calculateSlaDeadline s.isOfficeDay (ticketCalendar config overtimeSlaDate) start slaHours).map some
    | none => .ok (some (addHours start slaHours))

def recalculateTicketSlaAfterRoutingChange (t : Ticket) (issueType : Option TicketIssueType) :
    Except HttpException (Option Int) :=
  match t.assignedToId, t.slaStartedAt with
  | some _, some slaStartedAt =>
    let targetSlaHours := match issueType with
      | some issue => issue.slaHours.getD 0
      | none => 4
    if targetSlaHours ≤ 0 then .ok none
    else
      let creditedSlaHours := getSlaHoursIncludingCreditedPause targetSlaHours t.accumulatedPauseSeconds
      match s.config with
      | some config =>
        (calculateSlaDeadline s.isOfficeDay (ticketCalendar config t.overtimeSlaDate) slaStartedAt creditedSlaHours).map
          some
      | none => .ok (some (addHours slaStartedAt creditedSlaHours))
  | _, _ => .ok none

/-- The deadline of a running clock with its credited pauses. -/
def creditedDeadline (t : Ticket) (config : TicketingConfig) (slaHours : Rat) (accumulatedPauseSeconds : Int) :
    Except HttpException Int :=
  calculateSlaDeadline s.isOfficeDay (ticketCalendar config t.overtimeSlaDate) (getSlaClockStartedAt t)
    (getSlaHoursIncludingCreditedPause slaHours accumulatedPauseSeconds)

/-- `applySlaResume`: the ticket after the resume, or none for a ticket that is not paused. -/
def applySlaResume (t : Ticket) (resumeAt : Int) (config : TicketingConfig) : Except HttpException (Option Ticket) :=
  match t.slaPausedAt with
  | none => .ok none
  | some pausedAt =>
    -- A work-schedule pause must never erase a breach that already happened.
    if t.slaDeadline.any fun deadline => deadline ≤ pausedAt then .ok (some { t with slaPausedAt := none })
    else do
      let effectiveResumeAt := max pausedAt resumeAt
      let seconds ← calculateBusinessSeconds s.isOfficeDay (ticketCalendar config t.overtimeSlaDate) pausedAt
        effectiveResumeAt
      let t := { t with toTicketSla := creditTicketPause t.toTicketSla pausedAt effectiveResumeAt seconds }
      match t.slaDeadline, issueSlaHours (issueTypeConfig s t.toTicketRouting) with
      | some _, some slaHours =>
        let deadline ← creditedDeadline s t config slaHours t.accumulatedPauseSeconds
        pure (some { t with slaDeadline := some deadline, slaPausedAt := none })
      | _, _ => pure (some { t with slaPausedAt := none })

/-- A resume writes the SLA columns only, and ends the pause. -/
theorem applySlaResume_eq {t t' : Ticket} {resumeAt : Int} {config : TicketingConfig}
    (h : applySlaResume s t resumeAt config = .ok (some t')) :
    ∃ pausedAt, t.slaPausedAt = some pausedAt ∧ ∃ sla : TicketSla,
      t' = { t with toTicketSla := sla } ∧ sla.slaPausedAt = none ∧ sla.slaStartedAt = t.slaStartedAt ∧
      sla.isSlaWaiting = t.isSlaWaiting ∧ sla.overtimeSlaDate = t.overtimeSlaDate := by
  unfold applySlaResume at h
  split at h
  · cases h
  · rename_i pausedAt hpaused
    refine ⟨pausedAt, hpaused, ?_⟩
    split_ifs at h with hbreached
    · cases h
      exact ⟨_, rfl, rfl, rfl, rfl, rfl⟩
    · obtain ⟨seconds, -, h⟩ := bind_eq_ok.mp h
      dsimp only at h
      split at h
      · obtain ⟨deadline, -, h⟩ := bind_eq_ok.mp h
        cases h
        exact ⟨_, rfl, rfl, by simp, by simp, by simp⟩
      · cases h
        exact ⟨_, rfl, rfl, by simp, by simp, by simp⟩

/-! ## The scheduled resume -/

def pad2 (n : Int) : String := if n < 10 then "0" ++ toString n else toString n

/-- `HH:MM:SS` of the Manila day. -/
def getManilaTimeString (d : Int) : String :=
  let ms := (d + manilaOffset) % 86400000
  pad2 (ms / 3600000) ++ ":" ++ pad2 (ms / 60000 % 60) ++ ":" ++ pad2 (ms / 1000 % 60)

/-- The digits of `HH:MM:SS` or `HH:MM`, else of `08:00:00`. -/
def normalizedTime (time : String) : Nat × Nat × Nat :=
  match time.toList with
  | [a, b, ':', c, d, ':', e, f] =>
    if [a, b, c, d, e, f].all Char.isDigit then (twoDigits a b, twoDigits c d, twoDigits e f) else (8, 0, 0)
  | [a, b, ':', c, d] => if [a, b, c, d].all Char.isDigit then (twoDigits a b, twoDigits c d, 0) else (8, 0, 0)
  | _ => (8, 0, 0)

/-- An instant of a Manila day, none where the time is not one. -/
def createManilaDate (date : Int) (time : String) : Option Int :=
  let (hh, mm, ss) := normalizedTime time
  if (hh ≤ 23 ∧ mm ≤ 59 ∧ ss ≤ 59) ∨ (hh = 24 ∧ mm = 0 ∧ ss = 0) then
    some (date * 86400000 + hh * 3600000 + mm * 60000 + ss * 1000 - manilaOffset)
  else none

def getScheduledSlaResumeAt (config : TicketingConfig) : Option Int :=
  if config.isFlagCeremonyPaused then none
  else
    let resumeTime := if config.scheduleMode = .cww then config.cwwClockinEnd else config.officeClockin
    let clockoutTime := if config.scheduleMode = .cww then config.cwwClockoutEnd else config.officeClockout
    if isSlaDay s.isOfficeDay config s.today && getManilaTimeString s.now < clockoutTime then
      createManilaDate s.today resumeTime
    else
      match ((List.range 14).map fun i => s.today + (i : Int) + 1).find? (isSlaDay s.isOfficeDay config) with
      | some date => createManilaDate date resumeTime
      | none => none

/-! ## The projection -/

structure TicketSlaState where
  isOverdue : Bool := false
  isNearingSLA : Bool := false
  slaPaused : Bool := false
  slaResumeAt : Option Int := none
  slaResumeCanBeEarly : Bool := false
deriving DecidableEq, Repr

def isSchedulePaused (t : Ticket) : Bool :=
  match t.slaPausedAt with
  | some pausedAt => t.slaStartedAt.isSome && !t.isSlaWaiting && !(t.slaDeadline.any fun d => d ≤ pausedAt) &&
      t.status = .in_progress
  | none => false

def isStatusPaused (t : Ticket) : Bool :=
  t.slaPausedAt.isSome && !t.isSlaWaiting && (t.status = .freeze || t.status = .pause)

/-- When a paused or frozen ticket, or one outside the work schedule, is to resume. -/
def slaResumeAt (t : Ticket) (issue : Option TicketIssueType) (config : Option TicketingConfig) :
    Except HttpException (Option Int) :=
  match t.slaPausedAt with
  | none => .ok none
  | some pausedAt =>
    if isStatusPaused t then
      let resumeAfterHours := if t.status = .freeze then issue.bind TicketIssueType.maxFreezeHours
        else issue.map TicketIssueType.allowablePauseHours
      match resumeAfterHours.filter fun hours => 0 < hours with
      | some hours =>
        match config with
        | some config =>
          if t.status = .pause then (calculateSlaDeadline s.isOfficeDay config pausedAt hours).map some
          else .ok (some (addHours pausedAt hours))
        | none => .ok (some (addHours pausedAt hours))
      | none => .ok none
    else if isSchedulePaused t then .ok (config.bind (getScheduledSlaResumeAt s))
    else .ok none

/-- The deadline the projection writes into the loaded entity: the one the ticket would have if its pause ended at
its resume, or now. None where the pause is not projected. -/
def projectedDeadline (t : Ticket) (issue : Option TicketIssueType) (config : Option TicketingConfig)
    (resumeAt : Option Int) : Except HttpException (Option Int) :=
  match t.slaPausedAt, issueSlaHours issue, config with
  | some pausedAt, some slaHours, some config =>
    if t.isSlaWaiting || isSchedulePaused t || isStatusPaused t then do
      let projectionAt := max s.now (resumeAt.getD s.now)
      let seconds ← calculateBusinessSeconds s.isOfficeDay config pausedAt projectionAt
      let seconds := capManualPauseBusinessSeconds t.status seconds (issue.map TicketIssueType.allowablePauseHours)
      let deadline ← creditedDeadline s t config slaHours (t.accumulatedPauseSeconds + seconds)
      pure (some deadline)
    else .ok none
  | _, _, _ => .ok none

/-- Overdue and nearing its deadline, for a clock that runs. -/
def slaIndicators (t : Ticket) (issue : Option TicketIssueType) (deadline : Int) (state : TicketSlaState) :
    TicketSlaState :=
  let originalSlaMs : Rat := match issueSlaHours issue with
    | some slaHours => slaHours * 3600 * 1000
    | none => (deadline - getSlaClockStartedAt t : Int)
  let effectiveResolvedAt := getEffectiveResolvedAt t.toTicketOutcome
  let isOverdue : Bool := deadline < effectiveResolvedAt.getD s.now
  let isNearingSLA : Bool := !isOverdue && effectiveResolvedAt.isNone &&
    ((deadline - s.now : Int) : Rat) ≤ originalSlaMs * (2 / 5)
  { state with isOverdue, isNearingSLA }

/-- The indicators, with the entity as the projection leaves it. -/
def projectTicketSlaState (t : Ticket) (issue : Option TicketIssueType) (config : Option TicketingConfig) :
    Except HttpException (Ticket × TicketSlaState) :=
  let config := config.map fun config => ticketCalendar config t.overtimeSlaDate
  -- Duplicate is an administrative outcome, not a successful resolution.
  if t.status = .duplicate ∨ t.status = .cancelled then .ok (t, {})
  else do
    let slaPaused := isSchedulePaused t || isStatusPaused t
    let resumeAt ← slaResumeAt s t issue config
    let state : TicketSlaState :=
      { slaPaused, slaResumeAt := resumeAt
        slaResumeCanBeEarly := isSchedulePaused t && config.any fun config => config.scheduleMode = .cww }
    match t.slaStartedAt, t.slaDeadline with
    | some _, some storedDeadline =>
      let projected ← projectedDeadline s t issue config resumeAt
      let deadline := projected.getD storedDeadline
      pure ({ t with slaDeadline := some deadline },
        if slaPaused || t.isSlaWaiting then state else slaIndicators s t issue deadline state)
    | _, _ => pure (t, state)

/-- The projection changes at most the deadline of a started ticket, and only to a projected one. -/
theorem projectTicketSlaState_eq {t t' : Ticket} {issue : Option TicketIssueType} {config : Option TicketingConfig}
    {state : TicketSlaState} (h : projectTicketSlaState s t issue config = .ok (t', state)) :
    ∃ d, (d = t.slaDeadline ∨ t.slaStartedAt.isSome ∧ t.slaDeadline.isSome ∧ d.isSome ∧ ∃ resumeAt,
      projectedDeadline s t issue (config.map fun config => ticketCalendar config t.overtimeSlaDate) resumeAt = .ok d) ∧
      t' = { t with slaDeadline := d } := by
  unfold projectTicketSlaState at h
  dsimp only at h
  by_cases hterminal : t.status = .duplicate ∨ t.status = .cancelled
  · rw [if_pos hterminal] at h
    cases h
    exact ⟨_, .inl rfl, rfl⟩
  · rw [if_neg hterminal] at h
    obtain ⟨resumeAt, -, h⟩ := bind_eq_ok.mp h
    split at h
    case h_1 started storedDeadline hstart hdeadline =>
      obtain ⟨projected, hprojected, h⟩ := bind_eq_ok.mp h
      cases h
      refine ⟨some (projected.getD storedDeadline), ?_, rfl⟩
      cases projected with
      | none => exact .inl hdeadline.symm
      | some d => exact .inr ⟨by simp [hstart], by simp [hdeadline], rfl, resumeAt, hprojected⟩
    case h_2 =>
      cases h
      exact ⟨_, .inl rfl, rfl⟩

end

end ComplianceHub.Tickets
