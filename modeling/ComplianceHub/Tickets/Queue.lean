import ComplianceHub.Tickets.Rules
import ComplianceHub.Tickets.SlaState

/-!
# Workload and queues

* `hasBreachedActiveTicket`, `getWeeklySlaLoad`, `leastRecentlyAssigned`, `leastLoaded` : the choice of a technician;
* `canAutomaticallyAssign` : the gate before an automatic assignment is written;
* `unpauseNextWaitingTicketAndSetInProgress` : the hand-over of a staff member's queue. Its guarded UPDATE matches
  the row it has just read, so a completed hand-over is one write of `promotedRow`.
-/

namespace ComplianceHub.Tickets

open ComplianceHub.Interruption ComplianceHub.Sla

section
variable (s : Services)

def hasBreachedActiveTicket (db : Db) (technicianId : Nat) : Bool :=
  db.tickets.any fun t => t.assignedToId = some technicianId && t.status = .in_progress && t.slaPausedAt = none &&
    t.slaDeadline.any fun deadline => deadline < s.now

/-- Sunday 00:00 of the current Manila week; day 0 of the calendar is a Thursday. -/
def getManilaWeekStart : Int := (s.today - (s.today + 4) % 7) * 86400000 - manilaOffset

/-- The SLA hours assigned to a technician this week. -/
def getWeeklySlaLoad (db : Db) (technicianId : Nat) : Rat :=
  ((db.tickets.filter fun t => t.assignedToId = some technicianId &&
      t.lastAssignedAt.any fun at' => getManilaWeekStart s ≤ at').map fun t =>
    (issueSlaHours (issueTypeConfig s t.toTicketRouting)).getD 0).sum

/-- The latest assignment of a technician, the epoch without one. -/
def techLastAssignedTime (db : Db) (technicianId : Nat) : Int :=
  ((db.tickets.filter fun t => t.assignedToId = some technicianId).filterMap fun t => t.lastAssignedAt).max?.getD 0

def roundRobinCapHours (config : Option TicketingConfig) : Nat :=
  match config.map TicketingConfig.roundRobinCapHours with
  | some 0 | none => 80
  | some cap => cap

def isCappedRoundRobin (config : Option TicketingConfig) : Bool :=
  config.any fun config => config.assignmentStrategy = .cappedRoundRobin

/-- Capped round robin: the technician under the weekly cap who was assigned longest ago. -/
def leastRecentlyAssigned (db : Db) (techs : List User) : Option User :=
  (techs.filter fun tech => getWeeklySlaLoad s db tech.id < roundRobinCapHours s.config).argmin
    fun tech => techLastAssignedTime db tech.id

/-- Assigned and In Progress tickets of a technician. -/
def openCount (db : Db) (techId : Nat) : Nat :=
  db.count fun t => t.assignedToId = some techId && (t.status = .assigned || t.status = .in_progress)

def leastLoaded (db : Db) (techs : List User) : Option User := techs.argmin fun tech => openCount db tech.id

def canAutomaticallyAssign (technicianId : Nat) (pool : Pool) (requesterId : Nat) : Bool :=
  technicianId ≠ requesterId && (s.currentTechnicians pool).any fun technician => technician.id = technicianId

theorem ne_requester_of_canAutomaticallyAssign {technicianId requesterId : Nat} {pool : Pool}
    (h : canAutomaticallyAssign s technicianId pool requesterId = true) : technicianId ≠ requesterId := by
  simp only [canAutomaticallyAssign, Bool.and_eq_true, decide_eq_true_eq] at h
  exact h.1

/-! ## The hand-over of a queue -/

def isWaitingStatus (status : TicketStatus) : Bool := status = .assigned || status = .pause

/-- The waiting list of a staff member. -/
def waitsFor (techId : Nat) (t : Ticket) : Bool :=
  t.assignedToId = some techId && t.isSlaWaiting && isWaitingStatus t.status

/-- The waiting ticket as it enters In Progress with a fresh clock. -/
def promotedRow (t : Ticket) (slaDeadline : Option Int) : Ticket :=
  { t with
    interruptionHistory := recordInterruptionTransition t.interruptionHistory t.status .in_progress s.now
    isSlaWaiting := false
    status := .in_progress
    lastAssignedAt := some s.now
    accumulatedPauseSeconds := 0
    slaPausedAt := none
    slaStartedAt := some s.now
    slaDeadline }

/-- The row that a hand-over promotes, none without a waiting ticket. -/
def promotion (db : Db) (techId : Nat) : Except HttpException (Option Ticket) :=
  match db.oldest (waitsFor techId) with
  | none => .ok none
  | some t => (calculateTicketSlaDeadline s none t.issueTypeId t.overtimeSlaDate s.now).map fun slaDeadline =>
      some (updatedRow t fun row => promotedRow s row slaDeadline)

/-- Promote the oldest waiting ticket; true when there was one. -/
def unpauseNextWaitingTicketAndSetInProgress (techId : Nat) : TicketM Bool := do
  let db ← get
  match ← ofExcept (promotion s db techId) with
  | none => pure false
  | some row =>
    modify fun db => db.setTicket row
    pure true

/-- A waiting ticket and the row it is promoted to. -/
structure Promoted (techId : Nat) (row t : Ticket) : Prop where
  waits : waitsFor techId row = true
  eq : ∃ slaDeadline, calculateTicketSlaDeadline s none row.issueTypeId row.overtimeSlaDate s.now = .ok slaDeadline ∧
    t = updatedRow row fun row => promotedRow s row slaDeadline

theorem promotion_eq_none {db : Db} {techId : Nat} (h : promotion s db techId = .ok none) :
    db.oldest (waitsFor techId) = none := by
  unfold promotion at h
  split at h
  · assumption
  · obtain ⟨_, -, h⟩ := map_eq_ok.mp h
    cases h

theorem promotion_eq_some {db : Db} {techId : Nat} {t : Ticket} (h : promotion s db techId = .ok (some t)) :
    ∃ row, db.oldest (waitsFor techId) = some row ∧ Promoted s techId row t := by
  unfold promotion at h
  split at h
  · cases h
  · rename_i row hrow
    obtain ⟨slaDeadline, hd, h⟩ := map_eq_ok.mp h
    cases h
    exact ⟨row, hrow, (Db.mem_of_oldest hrow).2, slaDeadline, hd, rfl⟩

/-- A completed hand-over of a queue: nobody waits, or the oldest waiting ticket is promoted. -/
inductive HandsOn (techId : Nat) (db : Db) : Db → Prop where
  | empty : db.oldest (waitsFor techId) = none → HandsOn techId db db
  | promotes {row t : Ticket} : db.oldest (waitsFor techId) = some row → Promoted s techId row t →
      HandsOn techId db (db.setTicket t)

theorem HandsOn.of_promotion {db : Db} {techId : Nat} :
    ∀ {t : Option Ticket}, promotion s db techId = .ok t →
      HandsOn s techId db (match t with | some t => db.setTicket t | none => db)
  | none, h => .empty (promotion_eq_none s h)
  | some _, h => by
    obtain ⟨row, hrow, hp⟩ := promotion_eq_some s h
    exact .promotes hrow hp

theorem returns_unpauseNextWaitingTicketAndSetInProgress {techId : Nat} {db db' : Db} {promoted : Bool}
    (h : Returns (unpauseNextWaitingTicketAndSetInProgress s techId) db promoted db') : HandsOn s techId db db' := by
  simp only [unpauseNextWaitingTicketAndSetInProgress, returns_bind, returns_get, returns_ofExcept] at h
  obtain ⟨_, _, ⟨rfl, rfl⟩, t, _, ⟨hp, rfl⟩, h⟩ := h
  have hon := HandsOn.of_promotion s hp
  cases t with
  | none =>
    simp only [returns_pure] at h
    exact h.2 ▸ hon
  | some t =>
    simp only [returns_bind, returns_modify, returns_pure] at h
    obtain ⟨_, _, rfl, -, rfl⟩ := h
    exact hon

/-- The hand-over where its answer is not used. -/
def handOn (techId : Nat) : TicketM Unit := do
  let _ ← unpauseNextWaitingTicketAndSetInProgress s techId
  pure ()

theorem returns_handOn {techId : Nat} {db db' : Db} {u : Unit} (h : Returns (handOn s techId) db u db') :
    HandsOn s techId db db' := by
  simp only [handOn, returns_bind, returns_pure] at h
  obtain ⟨_, _, h, -, rfl⟩ := h
  exact returns_unpauseNextWaitingTicketAndSetInProgress s h

variable {s}

theorem HandsOn.escalations {techId : Nat} {db db' : Db} (h : HandsOn s techId db db') :
    db'.escalations = db.escalations := by
  cases h <;> rfl

end

end ComplianceHub.Tickets
