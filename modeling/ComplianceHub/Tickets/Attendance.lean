import ComplianceHub.Tickets.Types

/-!
# Attendance and the automatic-assignment pools

* `Roster` : the tables of the attendance service at one instant;
* `hasOvertimeClockIn` : the clock-in that an overtime day asks for;
* `getAvailableTechnicians`, `getPresentTechnicians`, `getAutoAssignmentTechnicians` : the staff pools;
* `Eligible` : everything a member of an automatic-assignment pool has passed.
-/

namespace ComplianceHub.Tickets

open ComplianceHub.Sla

/-- A row of `attendance`. -/
structure TechAttendance where
  userId : Nat
  date : Int
  status : AttendanceStatus := .present
  clockInTime : Option Int := none
  isManualOverride : Bool := false
deriving DecidableEq, Repr

structure OfficeDay where
  date : Int
  isOfficeDay : Bool
  isOvertime : Bool := false
deriving DecidableEq, Repr

/-- What the pools are computed from, at one instant. -/
structure Roster where
  now : Int
  config : Option TicketingConfig := some {}
  roleCapability : Role → RoleCapability
  users : List User
  attendance : List TechAttendance
  officeDays : List OfficeDay := []
  /-- `dutyService.blockedTechnicianIds`. -/
  blockedTechnicianIds : Int → List Nat := fun _ => []
  userKey : (users.map User.id).Nodup
  attendanceKey : (attendance.map fun a => (a.userId, a.date)).Nodup

namespace Roster

variable (r : Roster)

/-- The Manila day of the roster. -/
def today : Int := getManilaDateString r.now

def isOvertimeDay (date : Int) : Bool := (r.officeDays.find? fun day => day.date = date).any OfficeDay.isOvertime

def isTechnician (role : Role) : Bool :=
  let c := r.roleCapability role
  c.isDesktop || c.isItSupport || c.isPantawidIct

def isSeniorTech (role : Role) : Bool := (r.roleCapability role).isFocal && r.isTechnician role

def hasOvertimeClockIn (userId : Nat) (date : Int) : Bool :=
  (r.attendance.find? fun a => a.userId = userId && a.date = date && a.status = .present).any fun record =>
    record.clockInTime.isSome

/-- The roles a pool takes its staff from: those of its support capability, the technicians for `all`, no others. -/
def eligibleRole (pool : Pool) (role : Role) : Bool :=
  role ≠ .super_admin && match pool with
    | .all => r.isTechnician role
    | .type .desktop_support => (r.roleCapability role).isDesktop
    | .type .it_support => (r.roleCapability role).isItSupport
    | .type .pantawid_ict_support => (r.roleCapability role).isPantawidIct
    | .type .specialized_concerns => false

/-- The active staff of these roles who are present or half a day there, or have no record. -/
def getAvailableTechnicians (roles : Role → Bool) (date : Int) : List User :=
  (r.users.filter fun u => u.active && roles u.role).filter fun tech =>
    (r.attendance.find? fun a => a.userId = tech.id && a.date = date).all fun a =>
      a.status = .present || a.status = .half_day

/-- The end of the shift: eleven hours after the clock-in in a compressed week, otherwise the office's closing time. -/
def clockOutTime (clockInTime : Int) : Int :=
  if r.config.any fun config => config.scheduleMode = .cww then clockInTime + 11 * 3600 * 1000
  else Sla.createManilaDate r.today 0 (parseTime ((r.config.map TicketingConfig.officeClockout).getD "17:00:00") 17)

/-- The shift has not ended. A manual override without a clock-in is assumed to grant tickets. -/
def isShiftActive (record : TechAttendance) : Bool :=
  match record.clockInTime with
  | none => record.isManualOverride
  | some clockInTime => r.now ≤ r.clockOutTime clockInTime

/-- Strict availability for auto-assignment: explicit Present attendance, and today a shift that has not ended. -/
def getPresentTechnicians (roles : Role → Bool) (date : Int) : List User :=
  (r.getAvailableTechnicians roles date).filter fun u =>
    (r.attendance.find? fun a => a.date = date && a.status = .present && a.userId = u.id).any fun record =>
      date ≠ r.today || r.isShiftActive record

def getAutoAssignmentTechnicians (pool : Pool) (date : Int) : List User :=
  if r.isOvertimeDay date then []
  else (r.getPresentTechnicians (r.eligibleRole pool) date).filter fun technician =>
    technician.active && technician.autoAssignmentEligible && r.eligibleRole pool technician.role &&
      !r.isSeniorTech technician.role && !(r.blockedTechnicianIds date).contains technician.id

/-! ## Who is in a pool -/

/-- Everything a member of an automatic-assignment pool has passed. -/
structure Eligible (pool : Pool) (date : Int) (technicianId : Nat) : Prop where
  ordinaryDay : r.isOvertimeDay date = false
  account : ∃ u ∈ r.users, u.id = technicianId ∧ u.active = true ∧ u.autoAssignmentEligible = true ∧
    r.eligibleRole pool u.role = true ∧ r.isSeniorTech u.role = false
  attends : ∃ a ∈ r.attendance, a.userId = technicianId ∧ a.date = date ∧ a.status = .present ∧
    (date = r.today → r.isShiftActive a = true)
  free : technicianId ∉ r.blockedTechnicianIds date

variable {r}

theorem mem_getAvailableTechnicians {roles : Role → Bool} {date : Int} {u : User}
    (h : u ∈ r.getAvailableTechnicians roles date) : u ∈ r.users ∧ u.active = true ∧ roles u.role = true := by
  have hactive := (List.mem_filter.mp h).1
  simpa [and_assoc] using List.mem_filter.mp hactive

theorem mem_getPresentTechnicians {roles : Role → Bool} {date : Int} {u : User}
    (h : u ∈ r.getPresentTechnicians roles date) :
    u ∈ r.getAvailableTechnicians roles date ∧ ∃ a ∈ r.attendance, a.userId = u.id ∧ a.date = date ∧
      a.status = .present ∧ (date = r.today → r.isShiftActive a = true) := by
  obtain ⟨havailable, hany⟩ := List.mem_filter.mp h
  obtain ⟨a, ha, hshift⟩ := (Option.any_eq_true _ _).mp hany
  have hrecord := List.find?_some ha
  simp only [Bool.and_eq_true, decide_eq_true_eq] at hrecord
  refine ⟨havailable, a, List.mem_of_find?_eq_some ha, hrecord.2, hrecord.1.1, hrecord.1.2, fun htoday => ?_⟩
  simpa [htoday] using hshift

theorem eligible_of_mem_getAutoAssignmentTechnicians {pool : Pool} {date : Int} {u : User}
    (h : u ∈ r.getAutoAssignmentTechnicians pool date) : r.Eligible pool date u.id := by
  unfold getAutoAssignmentTechnicians at h
  split_ifs at h with hday
  · cases h
  · obtain ⟨hpresent, hpassed⟩ := List.mem_filter.mp h
    obtain ⟨havailable, hattends⟩ := mem_getPresentTechnicians hpresent
    obtain ⟨huser, -, -⟩ := mem_getAvailableTechnicians havailable
    simp only [Bool.and_eq_true, Bool.not_eq_true', List.contains_eq_mem, decide_eq_false_iff_not] at hpassed
    obtain ⟨⟨⟨⟨hactive, hopted⟩, hrole⟩, hjunior⟩, hfree⟩ := hpassed
    exact ⟨Bool.eq_false_iff.mpr hday, ⟨u, huser, rfl, hactive, hopted, hrole, hjunior⟩, hattends, hfree⟩

end Roster

end ComplianceHub.Tickets
