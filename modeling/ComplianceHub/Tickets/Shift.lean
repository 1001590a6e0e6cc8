import ComplianceHub.Lib.Rows
import ComplianceHub.Sla.Seconds
import ComplianceHub.Tickets.Attendance

/-!
# The end of a shift

It is computed twice: for a member of the staff who asks for the shift, and for the pool that tickets are assigned from.
The server is in any fixed time zone.

* `setHours` : a time of a column on the server's day of an instant;
* `getMyShift`, `presentTechnicians` : the shift, and the pool with its own end of the shift (`assignmentEnd`);
* `EndsAlike` : the two ends are one, or an instant is on one side of both;
* `assignable_while_on_shift_iff` : when a technician is in the pool exactly while the shift lasts.
-/

namespace ComplianceHub.Tickets

open ComplianceHub.Sla

/-- A JavaScript date; `none` is an invalid one. -/
abbrev DateTime := Option Int

/-- `a <= date`, false of an invalid date. -/
def notAfter (a : Int) (date : DateTime) : Bool := date.any fun b => a ≤ b

/-- `a < date`, false of an invalid date. -/
def before (a : Int) (date : DateTime) : Bool := date.any fun b => a < b

/-- `Number` of digits, perhaps with a sign. -/
def number (text : List Char) : Option Int :=
  match text with
  | '-' :: digits => if digits.all Char.isDigit && !digits.isEmpty then some (-decimal digits) else none
  | digits => if digits.all Char.isDigit then some (decimal digits) else none
where
  decimal (digits : List Char) : Int := digits.foldl (fun n c => n * 10 + ((c.toNat - 48 : Nat) : Int)) 0

/-- `text.split(':').map(Number)`, its first two numbers. -/
def hoursAndMinutes (text : String) : Option (Int × Int) :=
  match text.toList.splitOn ':' with
  | hours :: minutes :: _ => do some (← number hours, ← number minutes)
  | _ => none

/-- `date.setHours(hours, minutes, 0, 0)` on a server whose zone is ahead of UTC by `zone`. -/
def setHours (zone date : Int) (text : String) : DateTime :=
  (hoursAndMinutes text).map fun (hours, minutes) =>
    (date + zone) / 86400000 * 86400000 - zone + hours * 3600000 + minutes * 60000

def elevenHours : Int := 11 * 3600 * 1000

structure MyShift where
  clockIn : Option Int := none
  clockOut : Option DateTime := none
  attendanceStatus : Option AttendanceStatus := none

namespace Roster

variable (zone : Int) (r : Roster)

def isCww : Bool := r.config.any fun config => config.scheduleMode = .cww

/-- `config?.column || fallback` -/
def timeOf (column : TicketingConfig → String) (fallback : String) : String :=
  ((r.config.map column).filter (· ≠ "")).getD fallback

def officeClockOut : DateTime := setHours zone r.now (r.timeOf TicketingConfig.officeClockout "17:00:00")

/-- The `clockOut` of `getMyShift`. -/
def shiftEnd (clockIn : Int) : DateTime :=
  if r.isCww then
    let clockInStart := setHours zone clockIn (r.timeOf TicketingConfig.cwwClockinStart "07:00:00")
    let clockInEnd := setHours zone clockIn (r.timeOf TicketingConfig.cwwClockinEnd "08:00:00")
    -- super early bird
    if before clockIn clockInStart then setHours zone clockIn (r.timeOf TicketingConfig.cwwClockoutStart "18:00:00")
    -- within the sliding window
    else if notAfter clockIn clockInEnd then some (clockIn + elevenHours)
    -- late clock in
    else setHours zone clockIn (r.timeOf TicketingConfig.cwwClockoutEnd "19:00:00")
  else r.officeClockOut zone

def getMyShift (user : User) : MyShift :=
  match r.attendance.find? fun a => a.date = r.today && a.userId = user.id with
  | none => {}
  | some record =>
    match record.clockInTime with
    | none => { attendanceStatus := some record.status }
    | some clockIn =>
      { clockIn := some clockIn, clockOut := some (r.shiftEnd zone clockIn), attendanceStatus := some record.status }

/-- The `clockOutTime` of `getPresentTechnicians`. -/
def assignmentEnd (clockInTime : Int) : DateTime :=
  if r.isCww then some (clockInTime + elevenHours) else r.officeClockOut zone

/-- `getPresentTechnicians`, with the end of the shift in the zone of the server. -/
def presentTechnicians (roles : Role → Bool) (date : Int) : List User :=
  (r.getAvailableTechnicians roles date).filter fun u =>
    (r.attendance.find? fun a => a.date = date && a.status = .present && a.userId = u.id).any fun record =>
      date ≠ r.today || match record.clockInTime with
        | none => record.isManualOverride
        | some clockInTime => notAfter r.now (r.assignmentEnd zone clockInTime)

/-- An instant is not after the first of two ends, or after the second. -/
def OnOneSide (now first : Int) (second : DateTime) : Prop :=
  match second with
  | some second => now ≤ min first second ∨ max first second < now
  | none => first < now

instance (now first : Int) (second : DateTime) : Decidable (OnOneSide now first second) := by
  unfold OnOneSide
  cases second <;> infer_instance

/-- A standard week, a clock-in within the window, or an instant on one side of clock-in plus eleven hours and of the
official clock-out. -/
def EndsAlike (clockIn : Int) : Prop :=
  r.isCww = true →
    if before clockIn (setHours zone clockIn (r.timeOf TicketingConfig.cwwClockinStart "07:00:00")) then
      OnOneSide r.now (clockIn + elevenHours) (setHours zone clockIn (r.timeOf TicketingConfig.cwwClockoutStart "18:00:00"))
    else if notAfter clockIn (setHours zone clockIn (r.timeOf TicketingConfig.cwwClockinEnd "08:00:00")) then True
    else OnOneSide r.now (clockIn + elevenHours) (setHours zone clockIn (r.timeOf TicketingConfig.cwwClockoutEnd "19:00:00"))

instance (clockIn : Int) : Decidable (r.EndsAlike zone clockIn) := by
  unfold EndsAlike
  infer_instance

variable {zone r}

theorem onOneSide_iff (now first : Int) (second : DateTime) :
    OnOneSide now first second ↔ (notAfter now (some first) = notAfter now second) := by
  unfold OnOneSide notAfter
  cases second with
  | none => simp
  | some second =>
    simp only [Option.any_some, decide_eq_decide]
    omega

/-- The two ends decide an instant alike. -/
theorem endsAlike_iff (clockIn : Int) :
    r.EndsAlike zone clockIn ↔ notAfter r.now (r.assignmentEnd zone clockIn) = notAfter r.now (r.shiftEnd zone clockIn) := by
  unfold EndsAlike assignmentEnd shiftEnd
  cases hcww : r.isCww with
  | false => simp
  | true =>
    simp only [if_true, forall_const]
    split_ifs
    · exact onOneSide_iff r.now _ _
    · simp
    · exact onOneSide_iff r.now _ _

/-- A technician's row of a day is found by any search that it passes. -/
theorem find?_attendance {a : TechAttendance} {p : TechAttendance → Bool} (ha : a ∈ r.attendance) (hp : p a = true)
    (hkey : ∀ b, p b = true → b.userId = a.userId ∧ b.date = a.date) : r.attendance.find? p = some a := by
  refine Lib.find?_of_unique ha hp fun b hb hpb => ?_
  obtain ⟨huser, hdate⟩ := hkey b hpb
  exact List.inj_on_of_nodup_map r.attendanceKey hb ha (Prod.ext huser hdate)

section
variable {roles : Role → Bool} {u : User} {a : TechAttendance} {clockIn : Int}

theorem mem_presentTechnicians_iff (hu : u ∈ r.users) (hactive : u.active = true) (hrole : roles u.role = true)
    (ha : a ∈ r.attendance) (huser : a.userId = u.id) (hdate : a.date = r.today) (hstatus : a.status = .present)
    (hclock : a.clockInTime = some clockIn) :
    u ∈ r.presentTechnicians zone roles r.today ↔ notAfter r.now (r.assignmentEnd zone clockIn) = true := by
  have havailable : u ∈ r.getAvailableTechnicians roles r.today := by
    have hfind : (r.attendance.find? fun a => a.userId = u.id && a.date = r.today) = some a :=
      find?_attendance ha (by simp [huser, hdate]) fun b hb => by simpa [huser, hdate] using hb
    refine List.mem_filter.mpr ⟨List.mem_filter.mpr ⟨hu, by simp [hactive, hrole]⟩, ?_⟩
    rw [hfind, Option.all_some, hstatus]
    rfl
  have hfind : (r.attendance.find? fun a => a.date = r.today && a.status = .present && a.userId = u.id) = some a := by
    refine find?_attendance ha (by simp [huser, hdate, hstatus]) fun b hb => ?_
    simp only [Bool.and_eq_true, decide_eq_true_eq] at hb
    exact ⟨hb.2.trans huser.symm, hb.1.1.trans hdate.symm⟩
  unfold presentTechnicians
  rw [List.mem_filter, and_iff_right havailable, hfind, Option.any_some, hclock]
  simp

theorem getMyShift_clockOut (ha : a ∈ r.attendance) (huser : a.userId = u.id) (hdate : a.date = r.today)
    (hclock : a.clockInTime = some clockIn) : (r.getMyShift zone u).clockOut = some (r.shiftEnd zone clockIn) := by
  have hfind : (r.attendance.find? fun a => a.date = r.today && a.userId = u.id) = some a := by
    refine find?_attendance ha (by simp [huser, hdate]) fun b hb => ?_
    simp only [Bool.and_eq_true, decide_eq_true_eq] at hb
    exact ⟨hb.2.trans huser.symm, hb.1.trans hdate.symm⟩
  unfold getMyShift
  rw [hfind]
  simp only [hclock]

/-- **A technician who clocked in today is in the pool exactly while the shift lasts** if and only if the two ends of the
shift decide the instant alike. -/
theorem assignable_while_on_shift_iff (zone : Int) (r : Roster) (hu : u ∈ r.users) (hactive : u.active = true)
    (hrole : roles u.role = true) (ha : a ∈ r.attendance) (huser : a.userId = u.id) (hdate : a.date = r.today)
    (hstatus : a.status = .present) (hclock : a.clockInTime = some clockIn) :
    (u ∈ r.presentTechnicians zone roles r.today ↔
      ∃ clockOut, (r.getMyShift zone u).clockOut = some clockOut ∧ notAfter r.now clockOut = true) ↔
    r.EndsAlike zone clockIn := by
  rw [mem_presentTechnicians_iff hu hactive hrole ha huser hdate hstatus hclock,
    getMyShift_clockOut ha huser hdate hclock, endsAlike_iff, Bool.eq_iff_iff]
  simp

end

/-! ## A late clock-in -/

end Roster

/-- The technician of a compressed week with the default times. -/
def technician : User := { id := 1, role := .other "technician" }

/-- The technician clocked in at `clockIn`. -/
def cwwRoster (now clockIn : Int) : Roster where
  now
  config := some { scheduleMode := .cww }
  roleCapability _ := { isDesktop := true }
  users := [technician]
  attendance := [{ userId := 1, date := getManilaDateString now, clockInTime := some clockIn }]
  userKey := List.nodup_singleton 1
  attendanceKey := List.nodup_singleton (1, getManilaDateString now)

/-- A clock-in at half past seven, within the window, seen at nine. -/
theorem assignable_after_window_clock_in :
    technician ∈ (cwwRoster 3600000 (-1800000)).presentTechnicians manilaOffset (fun _ => true) 0 ↔
      ∃ clockOut, ((cwwRoster 3600000 (-1800000)).getMyShift manilaOffset technician).clockOut = some clockOut ∧
        notAfter 3600000 clockOut = true :=
  (Roster.assignable_while_on_shift_iff manilaOffset (cwwRoster 3600000 (-1800000)) List.mem_cons_self rfl rfl
    List.mem_cons_self rfl rfl rfl rfl).mpr (by decide +kernel)

/-- A clock-in at nine: the shift ends at seven in the evening, and tickets are assigned until eight. -/
theorem assignable_after_late_shift : ¬ ∀ (zone : Int) (r : Roster) (roles : Role → Bool) (u : User) (a : TechAttendance)
    (clockIn : Int), u ∈ r.users → u.active = true → roles u.role = true → a ∈ r.attendance → a.userId = u.id →
      a.date = r.today → a.status = .present → a.clockInTime = some clockIn → getManilaDateString clockIn = r.today →
      (u ∈ r.presentTechnicians zone roles r.today ↔
        ∃ clockOut, (r.getMyShift zone u).clockOut = some clockOut ∧ notAfter r.now clockOut = true) := by
  intro h
  have hiff := h manilaOffset (cwwRoster 41400000 3600000) (fun _ => true) technician _ 3600000 List.mem_cons_self rfl rfl
    List.mem_cons_self rfl rfl rfl rfl (by decide)
  have hpool : technician ∈ (cwwRoster 41400000 3600000).presentTechnicians manilaOffset (fun _ => true)
      (cwwRoster 41400000 3600000).today := by decide +kernel
  obtain ⟨clockOut, hclockOut, hlasts⟩ := hiff.mp hpool
  have hshift : ((cwwRoster 41400000 3600000).getMyShift manilaOffset technician).clockOut = some (some 39600000) := by
    decide +kernel
  obtain rfl := Option.some.inj (hshift.symm.trans hclockOut)
  revert hlasts
  decide

end ComplianceHub.Tickets
