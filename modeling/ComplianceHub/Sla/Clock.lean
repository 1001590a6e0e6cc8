import ComplianceHub.Common

/-!
# The SLA clock of `TicketService`

`calculateSlaDeadline` and `calculateBusinessSeconds`, each with its own loop, and the schedule parsing
and Manila-time helpers they share. Hours are exact rationals, as the source's numbers are read here.
`slaLoop` and `businessLoop` take the number of iterations their guard still allows.
-/

namespace ComplianceHub.Sla

inductive ScheduleMode where
  | officeHours
  | cww
deriving DecidableEq, Repr

inductive AssignmentStrategy where
  | currentAuto
  | cappedRoundRobin
deriving DecidableEq, Repr

/-- The columns of `ticketing_configs` that the ticket services read. Times are `HH:MM:SS` texts. -/
structure TicketingConfig where
  scheduleMode : ScheduleMode := .officeHours
  officeClockin : String := "08:00:00"
  officeClockout : String := "17:00:00"
  cwwClockinStart : String := "07:00:00"
  cwwClockinEnd : String := "08:00:00"
  cwwClockoutStart : String := "18:00:00"
  cwwClockoutEnd : String := "19:00:00"
  isFlagCeremonyPaused : Bool := false
  assignmentStrategy : AssignmentStrategy := .currentAuto
  roundRobinCapHours : Nat := 80
  /-- Per-ticket calculation context only; not a persisted global setting. -/
  overtimeSlaDate : Option Int := none
deriving DecidableEq, Repr

/-- `parseInt` of two decimal digits. -/
def twoDigits (a b : Char) : Nat := (a.toNat - 48) * 10 + (b.toNat - 48)

/-- `^(\d{2}):(\d{2})`, as hours; the default for any other text. -/
def parseTime (timeStr : String) (defaultHour : Rat) : Rat :=
  match timeStr.toList with
  | a :: b :: ':' :: c :: d :: _ =>
    if a.isDigit && b.isDigit && c.isDigit && d.isDigit then twoDigits a b + twoDigits c d / 60
    else defaultHour
  | _ => defaultHour

def shiftStartHour (config : TicketingConfig) : Rat :=
  if config.scheduleMode = .cww then parseTime config.cwwClockinStart 7 else parseTime config.officeClockin 8

def shiftEndHour (config : TicketingConfig) : Rat :=
  if config.scheduleMode = .cww then parseTime config.cwwClockoutStart 18 else parseTime config.officeClockout 17

/-! ## Manila time -/

/-- The offset of Asia/Manila, in milliseconds. -/
def manilaOffset : Int := 28800000

/-- `date.setMilliseconds(0)`. -/
def setMilliseconds (d : Int) : Int := d - d % 1000

def getManilaDateString (d : Int) : Int := (d + manilaOffset) / 86400000

/-- The hour of the Manila day with its minutes and seconds as fractions; `Intl` prints hours 0 to 23. -/
def getManilaHour (d : Int) : Rat :=
  let ms := (d + manilaOffset) % 86400000
  let hour := ms / 3600000
  let minute := ms / 60000 % 60
  let second := ms / 1000 % 60
  (hour : Rat) + (minute : Rat) / 60 + (second : Rat) / 3600

def createManilaDate (baseDateStr : Int) (addDays : Int) (hourFloat : Rat) : Int :=
  let hh := ⌊hourFloat⌋
  let mm := jsRound ((hourFloat - ⌊hourFloat⌋) * 60)
  (baseDateStr + addDays) * 86400000 + hh * 3600000 + mm * 60000 - manilaOffset

/-- Advance to the start of the next Manila day's shift. -/
def advanceToNextDayStart (config : TicketingConfig) (d : Int) : Int :=
  createManilaDate (getManilaDateString d) 1 (shiftStartHour config)

/-- A working block of the day, in hours. -/
structure Block where
  start : Rat
  stop : Rat
deriving DecidableEq, Repr

/-- The shift around the 12:00 to 13:00 lunch hour. -/
def blocks (config : TicketingConfig) : List Block :=
  (if shiftStartHour config < 12 then [⟨shiftStartHour config, min (shiftEndHour config) 12⟩] else []) ++
  (if shiftEndHour config > 13 then [⟨max (shiftStartHour config) 13, shiftEndHour config⟩] else [])

/-- The schedules both calculations reject. -/
def invalidSchedule (config : TicketingConfig) : Bool :=
  shiftStartHour config < 0 || shiftEndHour config > 24 || shiftStartHour config ≥ shiftEndHour config ||
    (shiftStartHour config ≥ 12 && shiftEndHour config ≤ 13)

section
variable (isOfficeDay : Int → Bool) (config : TicketingConfig)

/-- `config.overtimeSlaDate === date || await attendanceService.isOfficeDay(date)`. -/
def isSlaDay (date : Int) : Bool := config.overtimeSlaDate = some date || isOfficeDay date

/-! ## `calculateSlaDeadline` -/

/-- The `while (remainingHours > 0)` loop, with the iterations left before its guard throws. -/
def slaLoop : Nat → Int → Rat → Except HttpException Int
  | guard, current, remainingHours =>
    if remainingHours ≤ 0 then .ok current
    else match guard with
      | 0 => .error (.serviceUnavailable "The SLA calendar could not produce a complete deadline.")
      | guard + 1 =>
        if !isSlaDay isOfficeDay config (getManilaDateString current) then
          slaLoop guard (advanceToNextDayStart config current) remainingHours
        else
          let manilaHour := getManilaHour current
          match (blocks config).find? (fun b => manilaHour < b.stop) with
          | none => slaLoop guard (advanceToNextDayStart config current) remainingHours
          | some block =>
            if manilaHour < block.start then
              slaLoop guard (createManilaDate (getManilaDateString current) 0 block.start) remainingHours
            else
              let availableHoursInBlock := block.stop - manilaHour
              if remainingHours ≤ availableHoursInBlock then
                slaLoop guard (current + jsRound (remainingHours * 3600 * 1000)) 0
              else
                slaLoop guard (createManilaDate (getManilaDateString current) 0 block.stop)
                  (remainingHours - availableHoursInBlock)

def calculateSlaDeadline (start : Int) (slaHours : Rat) : Except HttpException Int :=
  let start := setMilliseconds start
  if slaHours ≤ 0 then .ok start
  else if invalidSchedule config then .error (.badRequest "Invalid SLA clock or working schedule.")
  else slaLoop isOfficeDay config 200000 start slaHours

/-! ## `calculateBusinessSeconds` -/

/-- The `while (current < end)` loop, with the iterations left before its guard throws. -/
def businessLoop (stop : Int) : Nat → Int → Rat → Except HttpException Rat
  | guard, current, seconds =>
    if stop ≤ current then .ok seconds
    else match guard with
      | 0 => .error (.serviceUnavailable "The SLA calendar did not progress through the complete interval.")
      | guard + 1 =>
        if !isSlaDay isOfficeDay config (getManilaDateString current) then
          businessLoop stop guard (advanceToNextDayStart config current) seconds
        else
          let manilaHour := getManilaHour current
          match (blocks config).find? (fun b => manilaHour < b.stop) with
          | none => businessLoop stop guard (advanceToNextDayStart config current) seconds
          | some block =>
            if manilaHour < block.start then
              let current := createManilaDate (getManilaDateString current) 0 block.start
              if stop ≤ current then .ok seconds else businessLoop stop guard current seconds
            else
              let endManilaHour := getManilaHour stop
              let endsToday := getManilaDateString current = getManilaDateString stop
              let effectiveEndHour := if endsToday ∧ endManilaHour < block.stop then endManilaHour else block.stop
              let hoursThisBlock := effectiveEndHour - manilaHour
              let seconds := if hoursThisBlock > 0 then seconds + hoursThisBlock * 3600 else seconds
              if endsToday ∧ endManilaHour ≤ block.stop then .ok seconds
              else businessLoop stop guard (createManilaDate (getManilaDateString current) 0 block.stop) seconds

/-- `Math.ceil((end - start) / 86400000) * 5 + 10`. -/
def maxIterations (start stop : Int) : Nat :=
  (⌈((stop - start : Int) : Rat) / 86400000⌉ * 5 + 10).toNat

def calculateBusinessSeconds (start stop : Int) : Except HttpException Int :=
  let start := setMilliseconds start
  let stop := setMilliseconds stop
  if stop ≤ start then .ok 0
  else if invalidSchedule config then .error (.badRequest "Invalid SLA interval or working schedule.")
  else (businessLoop isOfficeDay config stop (maxIterations start stop) start 0).map jsRound

end

end ComplianceHub.Sla
