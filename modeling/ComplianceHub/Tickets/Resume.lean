import ComplianceHub.Sla.WorkingTime
import ComplianceHub.Tickets.Operation

/-!
# The time left across a suspension

`slaTimeLeft` is the business time from an instant to a deadline, negative once the deadline has passed.

* `slaTimeLeft_of_deadline`, `calculateBusinessSeconds_of_deadline` : what is left before a deadline of the clock;
* `Suspended` : a ticket on its clock, suspended at some instant;
* `applySlaResume_extends`, `suspendOrResume_extends` : both resumes leave the deadline of the credited length;
* `suspension_keeps_time_left_iff` : when they keep the time left.
-/

namespace ComplianceHub.Tickets

open ComplianceHub.Sla WorkClock

/-! ## The time left before a deadline -/

section
variable {isOfficeDay : Int → Bool} {config : TicketingConfig}

/-- The Manila second of an instant. -/
abbrev secondOf (d : Int) : Int := (d + manilaOffset) / 1000

theorem secondOf_mono {a b : Int} (h : a ≤ b) : secondOf a ≤ secondOf b := by
  unfold secondOf
  omega

@[simp] theorem secondOf_ofSecond (a : Int) : secondOf (ofSecond a) = a := by
  unfold secondOf ofSecond
  omega

/-- Business seconds from `now` to `deadline`, less those passed since it. -/
def slaTimeLeft (isOfficeDay : Int → Bool) (config : TicketingConfig) (now deadline : Int) : Except HttpException Int := do
  let ahead ← calculateBusinessSeconds isOfficeDay config now deadline
  let behind ← calculateBusinessSeconds isOfficeDay config deadline now
  pure (ahead - behind)

theorem slaTimeLeft_eq (hv : invalidSchedule config = false) (now deadline : Int) :
    slaTimeLeft isOfficeDay config now deadline =
      .ok (timeLeft (Working isOfficeDay config) (secondOf now) (secondOf deadline)) := by
  obtain ⟨first, last, h⟩ := exists_minutes hv
  unfold slaTimeLeft
  rw [calculateBusinessSeconds_eq h, calculateBusinessSeconds_eq h]
  rfl

/-- Of a deadline of `len` seconds the part not worked yet is left. -/
theorem timeLeft_of_deadline {start d t : Int} {len : Nat}
    (hd : calculateSlaDeadline isOfficeDay config start ((len : Rat) / 3600) = .ok d) (hst : start ≤ t) :
    timeLeft (Working isOfficeDay config) (secondOf t) (secondOf d) =
      len - worked (Working isOfficeDay config) (secondOf start) (secondOf t) := by
  have hle : secondOf start ≤ secondOf t := secondOf_mono hst
  rcases Nat.eq_zero_or_pos len with rfl | hlen
  · -- no allowance: the deadline is the start
    rw [calculateSlaDeadline, if_pos (by simp), setMilliseconds_eq] at hd
    obtain rfl := Except.ok.inj hd
    unfold timeLeft
    rw [secondOf_ofSecond, worked_of_le hle]
  · obtain ⟨-, e, rfl, he⟩ := calculateSlaDeadline_isDeadline hlen hd
    rw [secondOf_ofSecond]
    exact he.timeLeft_eq hle

/-- A deadline after `t` leaves some of its seconds. -/
theorem worked_lt_of_deadline {start d t : Int} {len : Nat}
    (hd : calculateSlaDeadline isOfficeDay config start ((len : Rat) / 3600) = .ok d) (hst : start ≤ t) (htd : t < d) :
    worked (Working isOfficeDay config) (secondOf start) (secondOf t) < len := by
  rcases Nat.eq_zero_or_pos len with rfl | hlen
  · rw [calculateSlaDeadline, if_pos (by simp)] at hd
    obtain rfl := Except.ok.inj hd
    simp only [setMilliseconds] at htd
    omega
  · obtain ⟨-, e, rfl, he⟩ := calculateSlaDeadline_isDeadline hlen hd
    apply he.worked_lt
    simp only [ofSecond, secondOf] at htd ⊢
    omega

theorem calculateBusinessSeconds_of_deadline (hv : invalidSchedule config = false) {start d t : Int} {len : Nat}
    (hd : calculateSlaDeadline isOfficeDay config start ((len : Rat) / 3600) = .ok d) (hst : start ≤ t) :
    calculateBusinessSeconds isOfficeDay config t d =
      .ok (max 0 (len - worked (Working isOfficeDay config) (secondOf start) (secondOf t))) := by
  obtain ⟨first, last, h⟩ := exists_minutes hv
  rw [calculateBusinessSeconds_eq h, worked_eq_max_timeLeft, timeLeft_of_deadline hd hst]

end

/-! ## What a resume credits -/

/-- The ledger holds this very interval already, so that a credit of it is not made again. -/
def alreadyCredited (t : TicketSla) (start stop : Int) : Bool :=
  (usablePauseLedger t).any fun ledger =>
    ledger.intervals.any fun interval => interval.startAt = .iso start && interval.endAt = .iso stop

theorem creditTicketPause_accumulatedPauseSeconds (t : TicketSla) (start stop : Int) {seconds : Int} (hs : 0 ≤ seconds) :
    (creditTicketPause t start stop seconds).accumulatedPauseSeconds =
      t.accumulatedPauseSeconds + if alreadyCredited t start stop then 0 else seconds := by
  unfold creditTicketPause alreadyCredited
  cases usablePauseLedger t with
  | none =>
    simp only [Option.getD_none, List.any_nil, Option.any_none, Bool.false_eq_true, if_false, jsRound_intCast,
      max_eq_right hs]
  | some ledger =>
    simp only [Option.getD_some, Option.any_some]
    split_ifs with hany
    · rw [add_zero]
    · rw [jsRound_intCast, max_eq_right hs]

section
variable (s : Services)

/-- The SLA hours of a ticket. -/
def slaHoursOf (t : Ticket) : Rat := getTicketSlaHours s (issueTypeConfig s t.toTicketRouting) t.issueTypeId

/-- The calendar of a ticket. -/
def calendarOf (config : TicketingConfig) (t : Ticket) : TicketingConfig := ticketCalendar config t.overtimeSlaDate

/-- A ticket on its SLA clock, suspended at `pausedAt`: its deadline is the clock's for its SLA hours and its credited
seconds, all of them whole. -/
structure Suspended (config : TicketingConfig) (t : Ticket) (start pausedAt deadline : Int) : Prop where
  accepted : invalidSchedule (calendarOf config t) = false
  slaStartedAt : t.slaStartedAt = some start
  slaPausedAt : t.slaPausedAt = some pausedAt
  start_le : start ≤ pausedAt
  slaDeadline : t.slaDeadline = some deadline
  wholeSeconds : ∃ n : Nat, slaHoursOf s t * 3600 = n
  credited : 0 ≤ t.accumulatedPauseSeconds
  deadline_eq : calculateSlaDeadline s.isOfficeDay (calendarOf config t) start
    (slaHoursOf s t + (t.accumulatedPauseSeconds : Rat) / 3600) = .ok deadline

/-- Ending the suspension moves the deadline: the issue has SLA hours, and this interval is not credited yet. -/
def movesDeadline (t : Ticket) (pausedAt resumeAt : Int) : Bool :=
  (issueSlaHours (issueTypeConfig s t.toTicketRouting)).isSome && !alreadyCredited t.toTicketSla pausedAt resumeAt

end

variable {s : Services} {config : TicketingConfig} {t t' : Ticket} {start pausedAt deadline : Int}

/-- The whole seconds of the clock's length. -/
theorem Suspended.exists_length (h : Suspended s config t start pausedAt deadline) :
    ∃ len : Nat, slaHoursOf s t + (t.accumulatedPauseSeconds : Rat) / 3600 = (len : Rat) / 3600 ∧ 0 ≤ slaHoursOf s t ∧
      calculateSlaDeadline s.isOfficeDay (calendarOf config t) start ((len : Rat) / 3600) = .ok deadline := by
  obtain ⟨n, hn⟩ := h.wholeSeconds
  have hhours : slaHoursOf s t = (n : Rat) / 3600 := by
    rw [← hn]
    ring
  have heq : slaHoursOf s t + (t.accumulatedPauseSeconds : Rat) / 3600 =
      ((n + t.accumulatedPauseSeconds.toNat : Nat) : Rat) / 3600 := by
    have hacc : ((t.accumulatedPauseSeconds.toNat : Nat) : Rat) = (t.accumulatedPauseSeconds : Rat) := by
      exact_mod_cast Int.toNat_of_nonneg h.credited
    rw [hhours, Nat.cast_add, hacc, add_div]
  refine ⟨_, heq, ?_, heq ▸ h.deadline_eq⟩
  rw [hhours]
  positivity

/-- The deadline after a credit of `k` seconds is the clock's for `k` seconds more. -/
theorem Suspended.creditedDeadline_eq (h : Suspended s config t start pausedAt deadline) {len : Nat}
    (hlen : slaHoursOf s t + (t.accumulatedPauseSeconds : Rat) / 3600 = (len : Rat) / 3600) (hpos : 0 ≤ slaHoursOf s t)
    {slaHours : Rat} (hhours : issueSlaHours (issueTypeConfig s t.toTicketRouting) = some slaHours) {t' : Ticket}
    (hstart : t'.slaStartedAt = t.slaStartedAt) (hcal : t'.overtimeSlaDate = t.overtimeSlaDate) (k : Nat) :
    creditedDeadline s t' config slaHours (t.accumulatedPauseSeconds + k) =
      calculateSlaDeadline s.isOfficeDay (calendarOf config t) start (((len + k : Nat) : Rat) / 3600) := by
  have heq : slaHoursOf s t = slaHours := by
    unfold slaHoursOf getTicketSlaHours
    rw [hhours]
  have hacc := h.credited
  unfold creditedDeadline getSlaClockStartedAt getSlaHoursIncludingCreditedPause calendarOf
  rw [hstart, h.slaStartedAt, hcal, ← heq, max_eq_right hpos, max_eq_right (by omega)]
  congr 1
  push_cast
  rw [add_div, ← add_assoc, hlen, add_div]

/-- A resume after the deadline's suspension leaves the deadline of the clock's length and the seconds it credits. -/
theorem applySlaResume_extends (h : Suspended s config t start pausedAt deadline) {len : Nat}
    (hlen : slaHoursOf s t + (t.accumulatedPauseSeconds : Rat) / 3600 = (len : Rat) / 3600) (hpos : 0 ≤ slaHoursOf s t)
    (hold : calculateSlaDeadline s.isOfficeDay (calendarOf config t) start ((len : Rat) / 3600) = .ok deadline)
    {resumeAt : Int} (hpr : pausedAt ≤ resumeAt) (hpd : pausedAt < deadline)
    (hr : applySlaResume s t resumeAt config = .ok (some t')) :
    ∃ deadline', t'.slaDeadline = some deadline' ∧
      calculateSlaDeadline s.isOfficeDay (calendarOf config t) start (((len +
        if movesDeadline s t pausedAt resumeAt then
          worked (Working s.isOfficeDay (calendarOf config t)) (secondOf pausedAt) (secondOf resumeAt) else 0 : Nat) :
        Rat) / 3600) = .ok deadline' := by
  obtain ⟨first, last, hshift⟩ := exists_minutes h.accepted
  unfold applySlaResume at hr
  rw [h.slaPausedAt] at hr
  simp only [h.slaDeadline, Option.any_some] at hr
  rw [if_neg (by simp [hpd])] at hr
  obtain ⟨seconds, hseconds, hr⟩ := bind_eq_ok.mp hr
  rw [max_eq_right hpr] at hseconds hr
  have hcount := @calculateBusinessSeconds_eq s.isOfficeDay _ _ _ hshift pausedAt resumeAt
  rw [show ticketCalendar config t.overtimeSlaDate = calendarOf config t from rfl, hcount] at hseconds
  obtain rfl := Except.ok.inj hseconds
  rw [creditTicketPause_slaDeadline, h.slaDeadline] at hr
  unfold movesDeadline
  cases hhours : issueSlaHours (issueTypeConfig s t.toTicketRouting) with
  | none =>
    rw [hhours] at hr
    cases hr
    exact ⟨deadline, by simp, by simpa using hold⟩
  | some slaHours =>
    rw [hhours] at hr
    obtain ⟨deadline', hd, hr⟩ := bind_eq_ok.mp hr
    cases hr
    refine ⟨deadline', rfl, ?_⟩
    rw [creditTicketPause_accumulatedPauseSeconds _ _ _ (Int.natCast_nonneg _)] at hd
    cases hcredited : alreadyCredited t.toTicketSla pausedAt resumeAt with
    | true =>
      rw [hcredited] at hd
      rw [← hd]
      exact (h.creditedDeadline_eq hlen hpos hhours (by simp) (by simp) 0).symm
    | false =>
      rw [hcredited] at hd
      rw [← hd]
      exact (h.creditedDeadline_eq hlen hpos hhours (by simp) (by simp) _).symm

/-! ## The resume of an update -/

theorem capManualPauseBusinessSeconds_nonneg (status : TicketStatus) {seconds : Int} (hs : 0 ≤ seconds)
    (allowablePauseHours : Option Int) : 0 ≤ capManualPauseBusinessSeconds status seconds allowablePauseHours := by
  unfold capManualPauseBusinessSeconds
  split
  · split_ifs
    · exact le_min hs (by positivity)
    · exact hs
  · exact hs

/-- Nothing is credited when nothing was worked, or when a pause has no allowance. -/
theorem capManualPauseBusinessSeconds_eq_zero_iff (status : TicketStatus) {seconds : Int} (hs : 0 ≤ seconds)
    (allowablePauseHours : Option Int) : capManualPauseBusinessSeconds status seconds allowablePauseHours = 0 ↔
      seconds = 0 ∨ status = .pause ∧ ∃ hours, allowablePauseHours = some hours ∧ hours ≤ 0 := by
  unfold capManualPauseBusinessSeconds
  cases allowablePauseHours with
  | none => simp
  | some hours =>
    by_cases hpause : status = .pause
    · simp only [hpause, if_true, Option.some.injEq, exists_eq_left', true_and]
      omega
    · simp [hpause]

/-- The end of a suspension by an update leaves the deadline of the clock's length and the seconds it credits. The
entity `u` is the row `t` as it was loaded. -/
theorem suspendOrResume_extends (h : Suspended s config t start pausedAt deadline) {len : Nat}
    (hlen : slaHoursOf s t + (t.accumulatedPauseSeconds : Rat) / 3600 = (len : Rat) / 3600) (hpos : 0 ≤ slaHoursOf s t)
    (hold : calculateSlaDeadline s.isOfficeDay (calendarOf config t) start ((len : Rat) / 3600) = .ok deadline)
    (hconfig : s.config = some config) {u moved : Ticket} {target : TicketStatus}
    (hsla : ∃ d, u.toTicketSla = { t.toTicketSla with slaDeadline := d } ∧
      (issueSlaHours (issueTypeConfig s t.toTicketRouting) = none → d = t.slaDeadline))
    (hpaused : isPausedStatus u.status = true) (htarget : isPausedStatus target = false) {credit : Int}
    (hcredit : credit = capManualPauseBusinessSeconds u.status
      (worked (Working s.isOfficeDay (calendarOf config t)) (secondOf pausedAt) (secondOf s.now) : Int)
      ((issueTypeConfig s t.toTicketRouting).map TicketIssueType.allowablePauseHours))
    (hm : suspendOrResume s u (issueTypeConfig s t.toTicketRouting) target = .ok moved) :
    moved.slaPausedAt = none ∧
      moved.accumulatedPauseSeconds =
        t.accumulatedPauseSeconds + (if alreadyCredited t.toTicketSla pausedAt s.now then 0 else credit) ∧
      ∃ deadline', moved.slaDeadline = some deadline' ∧
        calculateSlaDeadline s.isOfficeDay (calendarOf config t) start (((len +
          if movesDeadline s t pausedAt s.now then credit.toNat else 0 : Nat) : Rat) / 3600) = .ok deadline' := by
  obtain ⟨first, last, hshift⟩ := exists_minutes h.accepted
  obtain ⟨d, hsla, hd⟩ := hsla
  have hstarted : u.slaStartedAt = some start := by rw [hsla]; exact h.slaStartedAt
  have hpausedAt : u.slaPausedAt = some pausedAt := by rw [hsla]; exact h.slaPausedAt
  have hcal : u.overtimeSlaDate = t.overtimeSlaDate := by rw [hsla]
  have hnonneg : 0 ≤ credit := hcredit ▸ capManualPauseBusinessSeconds_nonneg _ (Int.natCast_nonneg _) _
  unfold suspendOrResume at hm
  simp only [hpaused, htarget, hstarted, hpausedAt, Bool.true_or, Bool.false_eq_true, reduceCtorEq, and_false,
    and_self, if_false, if_true] at hm
  obtain ⟨credited, hc, hm⟩ := bind_eq_ok.mp hm
  obtain ⟨config', seconds, hconfig', hseconds, rfl⟩ := creditSuspension_eq s hc
  obtain rfl : config = config' := by rwa [hconfig, Option.some.injEq] at hconfig'
  rw [hcal, show ticketCalendar config t.overtimeSlaDate = calendarOf config t from rfl,
    calculateBusinessSeconds_eq hshift] at hseconds
  obtain rfl := Except.ok.inj hseconds
  rw [← hcredit] at hm
  obtain ⟨deadline', hdeadline, hm⟩ := bind_eq_ok.mp hm
  cases hm
  have husable : alreadyCredited u.toTicketSla pausedAt s.now = alreadyCredited t.toTicketSla pausedAt s.now := by
    rw [hsla]
    rfl
  have hacc : (creditTicketPause u.toTicketSla pausedAt s.now (credit : Int)).accumulatedPauseSeconds =
      t.accumulatedPauseSeconds + (if alreadyCredited t.toTicketSla pausedAt s.now then 0 else credit) := by
    rw [creditTicketPause_accumulatedPauseSeconds _ _ _ hnonneg, husable, hsla]
  refine ⟨rfl, hacc, ?_⟩
  unfold deadlineAfterCredit at hdeadline
  unfold movesDeadline
  cases hhours : issueSlaHours (issueTypeConfig s t.toTicketRouting) with
  | none =>
    rw [hhours, Except.ok.injEq, creditTicketPause_slaDeadline] at hdeadline
    refine ⟨deadline, ?_, by simpa using hold⟩
    rw [← hdeadline, hsla, hd hhours]
    exact h.slaDeadline
  | some slaHours =>
    rw [hhours] at hdeadline
    obtain ⟨config', hconfig', hdeadline⟩ := bind_eq_ok.mp hdeadline
    obtain rfl : config = config' := by
      unfold ticketingConfig at hconfig'
      rw [hconfig] at hconfig'
      exact Except.ok.inj hconfig'
    obtain ⟨d', hd', rfl⟩ := map_eq_ok.mp hdeadline
    refine ⟨d', rfl, ?_⟩
    dsimp only at hd'
    rw [hacc] at hd'
    have hstart' : (creditTicketPause u.toTicketSla pausedAt s.now (credit : Int)).slaStartedAt = t.slaStartedAt := by
      rw [creditTicketPause_slaStartedAt, hsla]
    have hcal' : (creditTicketPause u.toTicketSla pausedAt s.now (credit : Int)).overtimeSlaDate = t.overtimeSlaDate := by
      rw [creditTicketPause_overtimeSlaDate, hcal]
    cases hcredited : alreadyCredited t.toTicketSla pausedAt s.now with
    | true =>
      rw [hcredited] at hd'
      rw [← hd']
      exact (h.creditedDeadline_eq hlen hpos hhours hstart' hcal' 0).symm
    | false =>
      rw [hcredited] at hd'
      have hnat : ((credit.toNat : Nat) : Int) = credit := Int.toNat_of_nonneg hnonneg
      have heq := @Suspended.creditedDeadline_eq _ _ _ _ _ _ h _ hlen hpos _ hhours { u with
        toTicketSla := creditTicketPause u.toTicketSla pausedAt s.now (credit : Int) } hstart' hcal' credit.toNat
      rw [hnat] at heq
      rw [← hd']
      exact heq.symm

/-- A move out of a suspension keeps the clock that its resume has left. -/
theorem moveTo_clock {db : Db} {u u' : Ticket} {issue : Option TicketIssueType} {target : TicketStatus}
    (htarget : isPausedStatus target = false)
    (hpaused : ∀ moved, suspendOrResume s u issue target = .ok moved → moved.slaPausedAt = none)
    (h : moveTo s db u issue target = .ok u') : ∃ moved, suspendOrResume s u issue target = .ok moved ∧
      u'.slaDeadline = moved.slaDeadline ∧ u'.accumulatedPauseSeconds = moved.accumulatedPauseSeconds := by
  obtain ⟨moved, hmoved, h⟩ := bind_eq_ok.mp h
  refine ⟨moved, hmoved, ?_⟩
  have hnone := hpaused moved hmoved
  have hentered : (entered s db moved target).slaPausedAt = none ∧
      (entered s db moved target).slaDeadline = moved.slaDeadline ∧
      (entered s db moved target).accumulatedPauseSeconds = moved.accumulatedPauseSeconds := by
    cases target
    case «open» => cases htarget
    case in_progress => exact ⟨rfl, rfl, rfl⟩
    all_goals exact ⟨hnone, rfl, rfl⟩
  dsimp only at h
  split_ifs at h
  · unfold stopClock at h
    rw [hentered.1] at h
    cases h
    exact hentered.2
  · cases h
    exact hentered.2

/-- The entity an update loads has the row's clock, but for the deadline it projects for an issue with SLA hours. -/
theorem loadTicket_clock {db : Db} {row : Ticket} {viewer : Actor} {e : LoadedTicket}
    (h : loadTicket s db row viewer = .ok e) (hstatus : row.status ≠ .in_progress) :
    ∃ d, e.ticket.toTicketSla = { row.toTicketSla with slaDeadline := d } ∧
      (issueSlaHours (issueTypeConfig s row.toTicketRouting) = none → d = row.slaDeadline) := by
  obtain ⟨d, -, hsla, -⟩ := loadTicket_eq_of_ne_in_progress h hstatus
  refine ⟨d, hsla, fun hnone => ?_⟩
  simp only [loadTicket, bind_eq_ok] at h
  obtain ⟨-, -, u, hu, ⟨u', state⟩, hp, he⟩ := h
  cases he
  have hloads := (loads_enrichTicket db row).repairWaiting.repairStart.repairDeadline hu
  have hdeadline : (clearUnread viewer u).slaDeadline = row.slaDeadline := by
    rw [repairDeadline, if_neg (by simp [(loads_enrichTicket db row).repairWaiting.repairStart.status, hstatus]),
      Except.ok.injEq] at hu
    rw [← hu, repairStart, if_neg (by simp [(loads_enrichTicket db row).repairWaiting.status, hstatus]), repairWaiting,
      if_neg (by simp [(loads_enrichTicket db row).status, hstatus])]
    have hcleared : (clearUnread viewer (enrichTicket db row)).slaDeadline = (enrichTicket db row).slaDeadline := by
      unfold clearUnread
      split_ifs <;> rfl
    rw [hcleared]
    unfold enrichTicket
    split
    · split_ifs <;> rfl
    · rfl
  obtain ⟨d', hd', rfl⟩ := projectTicketSlaState_eq s hp
  have hdd : d' = d := congrArg TicketSla.slaDeadline hsla
  rw [hdeadline] at hd'
  rcases hd' with hd' | ⟨-, -, hsome, resumeAt, hprojected⟩
  · exact hdd.symm.trans hd'
  · -- without SLA hours nothing is projected
    unfold projectedDeadline at hprojected
    rw [hnone] at hprojected
    split at hprojected
    · rename_i heq _
      cases heq
    · cases hprojected
      cases hsome

/-- An update that moves a suspended ticket on, its routing as it was. -/
theorem returns_updateTicket_resume {db db' : Db} {id : Nat} {dto : UpdateTicketDto} {actor : Actor} {row t' : Ticket}
    {target : TicketStatus} (hrow : db.ticket? id = some row) (hstatus : row.status = .pause ∨ row.status = .freeze)
    (hdto : dto.status = some target) (hrouting : routingUpdateRequested dto = false)
    (h : Returns (updateTicket s id dto actor) db t' db') :
    ∃ u u' issue, issue = issueTypeConfig s row.toTicketRouting ∧ u.status = row.status ∧
      (∃ d, u.toTicketSla = { row.toTicketSla with slaDeadline := d } ∧ (issueSlaHours issue = none → d = row.slaDeadline)) ∧
      moveTo s db u issue target = .ok u' ∧ t'.toTicketSla = u'.toTicketSla := by
  obtain ⟨row', plan, _, hrow', hplan, rfl, -, -⟩ := returns_updateTicket s h
  obtain rfl : row = row' := by rwa [hrow, Option.some.injEq] at hrow'
  have hnot : row.status ≠ .in_progress := by
    rcases hstatus with hstatus | hstatus <;> rw [hstatus] <;> decide
  obtain ⟨loaded, hload, -, ⟨hpart, -⟩ | hstaff⟩ := planUpdate_eq_ok s hplan
  · -- requesters close resolved tickets and edit open ones
    have hst := (loadTicket_loads hload).status
    cases hpart with
    | close hresolved _ =>
      rw [hst] at hresolved
      rcases hstatus with hstatus | hstatus <;> rw [hstatus] at hresolved <;> cases hresolved
    | edit hopen _ =>
      rw [hst] at hopen
      rcases hstatus with hstatus | hstatus <;> rw [hstatus] at hopen <;> cases hopen
  · obtain ⟨routing, slaDeadline, issue, content, moved, content', hcases, -, -, hpart, rfl⟩ :=
      planStaffUpdate_eq_ok s hstaff
    obtain ⟨-, rfl, rfl, rfl⟩ := hcases.resolve_right fun hr => by rw [hrouting] at hr; cases hr.1
    have hst : (updateContext db loaded actor).original.status = row.status := (loadTicket_loads hload).status
    cases hpart with
    | none hnone _ =>
      rw [hdto] at hnone
      cases hnone
    | duplicate _ _ hdup =>
      have hlive := hdup.isLive
      dsimp only at hlive
      rw [hst] at hlive
      rcases hstatus with hstatus | hstatus <;> rw [hstatus] at hlive <;> cases hlive
    | move htarget _ _ hmove =>
      obtain rfl := Option.some.inj (hdto.symm.trans htarget)
      have hmoved := hmove.moveTo
      rw [loadTicket_issueTypeConfig hload] at hmoved
      refine ⟨_, moved.ticket, _, rfl, ?_, ?_, hmoved, rfl⟩
      · exact hst
      · exact loadTicket_clock hload hnot

/-! ## When a suspension keeps the time left -/

/-- Nothing of the pause is working time, or it has no allowance to credit. -/
def NothingToCredit (s : Services) (config : TicketingConfig) (t : Ticket) (start stop : Int) : Prop :=
  (∀ sec, start / 1000 ≤ sec → sec < stop / 1000 → ¬ InWorkingTime s.isOfficeDay (calendarOf config t) (sec * 1000)) ∨
    t.status = .pause ∧ ∃ issue, issueTypeConfig s t.toTicketRouting = some issue ∧ issue.allowablePauseHours ≤ 0

theorem worked_eq_zero_iff (start stop : Int) :
    worked (Working s.isOfficeDay (calendarOf config t)) (secondOf start) (secondOf stop) = 0 ↔
      ∀ sec, start / 1000 ≤ sec → sec < stop / 1000 → ¬ InWorkingTime s.isOfficeDay (calendarOf config t) (sec * 1000) := by
  rw [← workingSeconds_eq_zero_iff, workingSeconds_eq]

theorem nothingToCredit_iff (start stop : Int) : NothingToCredit s config t start stop ↔
    capManualPauseBusinessSeconds t.status
      (worked (Working s.isOfficeDay (calendarOf config t)) (secondOf start) (secondOf stop) : Int)
      ((issueTypeConfig s t.toTicketRouting).map TicketIssueType.allowablePauseHours) = 0 := by
  rw [capManualPauseBusinessSeconds_eq_zero_iff t.status (Int.natCast_nonneg _), Int.natCast_eq_zero, worked_eq_zero_iff]
  unfold NothingToCredit
  simp only [Option.map_eq_some_iff]
  constructor
  · rintro (hidle | ⟨hpause, issue, hissue, hle⟩)
    · exact Or.inl hidle
    · exact Or.inr ⟨hpause, _, ⟨issue, hissue, rfl⟩, hle⟩
  · rintro (hidle | ⟨hpause, _, ⟨issue, hissue, rfl⟩, hle⟩)
    · exact Or.inl hidle
    · exact Or.inr ⟨hpause, issue, hissue, hle⟩

theorem applySlaResume_keeps_time_left_iff (h : Suspended s config t start pausedAt deadline) {resumeAt : Int}
    (hpr : pausedAt ≤ resumeAt) (hpd : pausedAt < deadline)
    (hr : applySlaResume s t resumeAt config = .ok (some t')) :
    (∃ deadline', t'.slaDeadline = some deadline' ∧
        calculateBusinessSeconds s.isOfficeDay (calendarOf config t) resumeAt deadline' =
          calculateBusinessSeconds s.isOfficeDay (calendarOf config t) pausedAt deadline) ↔
      movesDeadline s t pausedAt resumeAt = true ∨ ∀ sec, pausedAt / 1000 ≤ sec → sec < resumeAt / 1000 →
        ¬ InWorkingTime s.isOfficeDay (calendarOf config t) (sec * 1000) := by
  obtain ⟨len, hlen, hpos, hold⟩ := h.exists_length
  obtain ⟨deadline', hd', hnew⟩ := applySlaResume_extends h hlen hpos hold hpr hpd hr
  have hlt := worked_lt_of_deadline hold h.start_le hpd
  have hadd := @worked_add (Working s.isOfficeDay (calendarOf config t)) _ _ _ _ (secondOf_mono h.start_le)
    (secondOf_mono hpr)
  rw [← worked_eq_zero_iff]
  have hiff : calculateBusinessSeconds s.isOfficeDay (calendarOf config t) resumeAt deadline' =
      calculateBusinessSeconds s.isOfficeDay (calendarOf config t) pausedAt deadline ↔
      movesDeadline s t pausedAt resumeAt = true ∨
        worked (Working s.isOfficeDay (calendarOf config t)) (secondOf pausedAt) (secondOf resumeAt) = 0 := by
    rw [calculateBusinessSeconds_of_deadline h.accepted hold h.start_le,
      calculateBusinessSeconds_of_deadline h.accepted hnew (h.start_le.trans hpr), Except.ok.injEq]
    by_cases hmoves : movesDeadline s t pausedAt resumeAt = true
    · rw [if_pos hmoves]
      exact iff_of_true (by omega) (Or.inl hmoves)
    · rw [if_neg hmoves, or_iff_right hmoves]
      omega
  rw [← hiff]
  constructor
  · rintro ⟨d, hd, heq⟩
    rw [hd', Option.some.injEq] at hd
    exact hd ▸ heq
  · intro heq
    exact ⟨deadline', hd', heq⟩

theorem updateTicket_keeps_time_left_iff (h : Suspended s config t start pausedAt deadline) (hconfig : s.config = some config)
    (hps : pausedAt ≤ s.now) {db db' : Db} {id : Nat} {dto : UpdateTicketDto} {actor : Actor} {target : TicketStatus}
    (hrow : db.ticket? id = some t) (hstatus : t.status = .pause ∨ t.status = .freeze) (hdto : dto.status = some target)
    (htarget : isPausedStatus target = false) (hrouting : routingUpdateRequested dto = false)
    (hr : Returns (updateTicket s id dto actor) db t' db') :
    (∃ seconds credit left deadline',
        calculateBusinessSeconds s.isOfficeDay (calendarOf config t) pausedAt s.now = .ok seconds ∧
        credit = capManualPauseBusinessSeconds t.status seconds
          ((issueTypeConfig s t.toTicketRouting).map TicketIssueType.allowablePauseHours) ∧
        t'.accumulatedPauseSeconds = t.accumulatedPauseSeconds + credit ∧
        t'.slaDeadline = some deadline' ∧
        slaTimeLeft s.isOfficeDay (calendarOf config t) pausedAt deadline = .ok left ∧
        slaTimeLeft s.isOfficeDay (calendarOf config t) s.now deadline' = .ok (left - (seconds - credit))) ↔
      movesDeadline s t pausedAt s.now = true ∨ NothingToCredit s config t pausedAt s.now := by
  obtain ⟨len, hlen, hpos, hold⟩ := h.exists_length
  obtain ⟨first, last, hshift⟩ := exists_minutes h.accepted
  obtain ⟨u, u', issue, rfl, hust, hsla, hmove, hsaved⟩ := returns_updateTicket_resume hrow hstatus hdto hrouting hr
  have hpaused : isPausedStatus u.status = true := by
    rw [hust]
    rcases hstatus with hstatus | hstatus <;> rw [hstatus] <;> rfl
  have hext := fun moved (hm : _ = Except.ok moved) =>
    suspendOrResume_extends h hlen hpos hold hconfig hsla hpaused htarget rfl hm
  obtain ⟨moved, hmoved, hdeadline, hacc⟩ := moveTo_clock htarget (fun moved hm => (hext moved hm).1) hmove
  obtain ⟨-, haccm, deadline', hd', hnew⟩ := hext moved hmoved
  rw [hust] at haccm hnew
  have hadd := @worked_add (Working s.isOfficeDay (calendarOf config t)) _ _ _ _ (secondOf_mono h.start_le)
    (secondOf_mono hps)
  have hbs : calculateBusinessSeconds s.isOfficeDay (calendarOf config t) pausedAt s.now =
      .ok (worked (Working s.isOfficeDay (calendarOf config t)) (secondOf pausedAt) (secondOf s.now)) :=
    calculateBusinessSeconds_eq hshift pausedAt s.now
  have hleft := (@slaTimeLeft_eq s.isOfficeDay _ h.accepted pausedAt deadline).trans
    (congrArg Except.ok (timeLeft_of_deadline hold h.start_le))
  have hleft' := (@slaTimeLeft_eq s.isOfficeDay _ h.accepted s.now deadline').trans
    (congrArg Except.ok (timeLeft_of_deadline hnew (h.start_le.trans hps)))
  have hnothing := @nothingToCredit_iff s config t pausedAt s.now
  have hnonneg := capManualPauseBusinessSeconds_nonneg t.status
    (Int.natCast_nonneg (worked (Working s.isOfficeDay (calendarOf config t)) (secondOf pausedAt) (secondOf s.now)))
    ((issueTypeConfig s t.toTicketRouting).map TicketIssueType.allowablePauseHours)
  obtain ⟨credit, hcredit⟩ : ∃ credit, credit = capManualPauseBusinessSeconds t.status
      (worked (Working s.isOfficeDay (calendarOf config t)) (secondOf pausedAt) (secondOf s.now) : Int)
      ((issueTypeConfig s t.toTicketRouting).map TicketIssueType.allowablePauseHours) := ⟨_, rfl⟩
  rw [← hcredit] at hnothing hnonneg haccm hleft'
  have hsaveddeadline : t'.slaDeadline = some deadline' := (congrArg TicketSla.slaDeadline hsaved).trans (hdeadline.trans hd')
  have hsavedacc : t'.accumulatedPauseSeconds = t.accumulatedPauseSeconds +
      (if alreadyCredited t.toTicketSla pausedAt s.now then 0 else credit) :=
    (congrArg TicketSla.accumulatedPauseSeconds hsaved).trans (hacc.trans haccm)
  rw [hnothing]
  constructor
  · rintro ⟨seconds, credit', left, d, hsec, hcr, -, hd, hl, hl'⟩
    obtain rfl := Except.ok.inj (hbs.symm.trans hsec)
    obtain rfl : credit' = credit := hcr.trans hcredit.symm
    obtain rfl : deadline' = d := Option.some.inj (hsaveddeadline.symm.trans hd)
    obtain rfl := Except.ok.inj (hleft.symm.trans hl)
    have heq := Except.ok.inj (hleft'.symm.trans hl')
    by_cases hmoves : movesDeadline s t pausedAt s.now = true
    · exact Or.inl hmoves
    · rw [if_neg hmoves] at heq
      exact Or.inr (by omega)
  · intro hor
    refine ⟨_, credit, _, deadline', hbs, hcredit, ?_, hsaveddeadline, hleft, hleft'.trans (congrArg Except.ok ?_)⟩
    · rw [hsavedacc]
      rcases hor with hmoves | hzero
      · rw [if_neg fun hc => by simp [movesDeadline, hc] at hmoves]
      · rw [hzero, ite_self]
    · rcases hor with hmoves | hzero
      · rw [if_pos hmoves]
        omega
      · rw [hzero]
        simp only [Int.toNat_zero, ite_self]
        omega

/-- When suspending and resuming preserves the remaining SLA time. A deadline that had passed stays as it is at a
scheduled resume. Otherwise a scheduled resume, and an update that leaves Pause or Freeze with its routing as it was,
account for the suspension exactly when ending it moves the deadline or there is nothing to credit. -/
theorem suspension_keeps_time_left_iff {s : Services} {config : TicketingConfig} {t : Ticket}
    {start pausedAt deadline : Int} (h : Suspended s config t start pausedAt deadline) :
    (∀ resumeAt t', pausedAt ≤ resumeAt → applySlaResume s t resumeAt config = .ok (some t') →
      (deadline ≤ pausedAt → t'.slaDeadline = some deadline) ∧
      (pausedAt < deadline →
        ((∃ deadline', t'.slaDeadline = some deadline' ∧
            calculateBusinessSeconds s.isOfficeDay (calendarOf config t) resumeAt deadline' =
              calculateBusinessSeconds s.isOfficeDay (calendarOf config t) pausedAt deadline) ↔
          movesDeadline s t pausedAt resumeAt = true ∨ ∀ sec, pausedAt / 1000 ≤ sec → sec < resumeAt / 1000 →
            ¬ InWorkingTime s.isOfficeDay (calendarOf config t) (sec * 1000)))) ∧
    (s.config = some config → pausedAt ≤ s.now → ∀ db db' id dto actor target t', db.ticket? id = some t →
      (t.status = .pause ∨ t.status = .freeze) → dto.status = some target → isPausedStatus target = false →
      routingUpdateRequested dto = false → Returns (updateTicket s id dto actor) db t' db' →
      ((∃ seconds credit left deadline',
          calculateBusinessSeconds s.isOfficeDay (calendarOf config t) pausedAt s.now = .ok seconds ∧
          credit = capManualPauseBusinessSeconds t.status seconds
            ((issueTypeConfig s t.toTicketRouting).map TicketIssueType.allowablePauseHours) ∧
          t'.accumulatedPauseSeconds = t.accumulatedPauseSeconds + credit ∧
          t'.slaDeadline = some deadline' ∧
          slaTimeLeft s.isOfficeDay (calendarOf config t) pausedAt deadline = .ok left ∧
          slaTimeLeft s.isOfficeDay (calendarOf config t) s.now deadline' = .ok (left - (seconds - credit))) ↔
        movesDeadline s t pausedAt s.now = true ∨ NothingToCredit s config t pausedAt s.now)) := by
  refine ⟨fun resumeAt t' hpr hr => ⟨fun hle => ?_, fun hlt => applySlaResume_keeps_time_left_iff h hpr hlt hr⟩, ?_⟩
  · -- the breach is kept
    unfold applySlaResume at hr
    rw [h.slaPausedAt] at hr
    simp only [h.slaDeadline, Option.any_some] at hr
    rw [if_pos (by simp [hle])] at hr
    cases hr
    rfl
  · intro hconfig hps db db' id dto actor target t' hrow hstatus hdto htarget hrouting hr
    exact updateTicket_keeps_time_left_iff h hconfig hps hrow hstatus hdto htarget hrouting hr

/-- A ticket on an issue of four hours, started at 08:00 and suspended at 09:00. -/
def suspendedAtNine : Ticket where
  id := 1
  requesterId := 1
  assignedToId := some 2
  categoryId := some 1
  issueTypeId := some 1
  priority := some .medium
  status := .in_progress
  createdAt := 0
  slaStartedAt := some 0
  slaPausedAt := some 3600000
  slaDeadline := some 14400000

/-- The ticket resumed at 10:00: one hour is credited, and the deadline moves over lunch to 14:00. -/
def resumedAtTen : Ticket :=
  { suspendedAtNine with
    slaPausedAt := none
    slaDeadline := some 21600000
    accumulatedPauseSeconds := 3600
    slaPauseLedger := some ⟨some (.iso 0), some 0, [⟨.iso 3600000, .iso 7200000, some 3600⟩]⟩ }

/-- Three hours are left before the suspension and after it. -/
theorem suspension_keeps_time_left_over_lunch : ∃ deadline', resumedAtTen.slaDeadline = some deadline' ∧
    calculateBusinessSeconds (office 7200000).isOfficeDay {} 7200000 deadline' =
      calculateBusinessSeconds (office 7200000).isOfficeDay {} 3600000 14400000 :=
  have hsuspended : Suspended (office 7200000) {} suspendedAtNine 0 3600000 14400000 :=
    ⟨by decide +kernel, rfl, rfl, by decide, rfl, ⟨14400, by decide +kernel⟩, by decide, by decide +kernel⟩
  (((suspension_keeps_time_left_iff hsuspended).1 7200000 resumedAtTen (by decide) (by decide +kernel)).2
    (by decide)).mpr (Or.inl (by decide +kernel))

/-- The same ticket without an issue, on the default allowance of four hours. -/
def withoutIssue : Ticket := { suspendedAtNine with issueTypeId := none }

/-- Resumed at 10:00 the ticket without an issue keeps its deadline at noon: of the three hours left two remain. -/
theorem withoutIssue_loses_an_hour :
    Suspended (office 7200000) {} withoutIssue 0 3600000 14400000 ∧
    (∃ t', applySlaResume (office 7200000) withoutIssue 7200000 {} = .ok (some t') ∧ t'.slaDeadline = some 14400000) ∧
    calculateBusinessSeconds (office 7200000).isOfficeDay {} 3600000 14400000 = .ok 10800 ∧
    calculateBusinessSeconds (office 7200000).isOfficeDay {} 7200000 14400000 = .ok 7200 :=
  ⟨⟨by decide +kernel, rfl, rfl, by decide, rfl, ⟨14400, by decide +kernel⟩, by decide, by decide +kernel⟩,
    ⟨{ resumedAtTen with issueTypeId := none, slaDeadline := some 14400000 }, by decide +kernel, rfl⟩,
    by decide +kernel, by decide +kernel⟩

end ComplianceHub.Tickets
