import ComplianceHub.Lib.Exclusion
import ComplianceHub.Tickets.LinkDiscipline
import ComplianceHub.Tickets.ReadScope

/-!
# Overtime tickets and those who acquire them

* `Request`, `sideBySide` : any operations, each with the accounts and the attendance that its call reads, interleaved
  from any tables;
* `claiming` : a claim after some of its accesses. Its only writes are those of its transaction, which has read the
  tables under both locks (`claiming_writes`);
* `Acquires`, `Counts` : the step in which a claim writes, and the one in which it has counted the work of its actor;
* `MayAcquire`, `Starts`, `Queues` : who acquires a ticket, and how it begins;
* `overtime_has_one_winner` : every acquisition finds the ticket Open and nobody's; at most one comes between two such
  states.
-/

namespace ComplianceHub.Tickets.Interleaved

open ComplianceHub.Lib

/-- An operation, with what its call reads outside the ticket tables. -/
structure Request where
  services : Services
  /-- The accounts and their attendance. -/
  roster : Roster
  op : Op

namespace Request

def activeUserRow (r : Request) (id : Nat) : Option User := r.roster.users.find? fun u => u.id = id && u.active

def reads (r : Request) : Services := { r.services.onRoster r.roster with activeUserRow := r.activeUserRow }

def program (r : Request) : Program Lock Write Db (Except HttpException Unit) := (Interleaved.program r.reads r.op).run

end Request

/-- Calls at work on the tables. -/
abbrev Clients (ι : Type) := Threads ι Lock Write Db (Except HttpException Unit)

/-- A step of one of them. -/
abbrev Access (ι : Type) := Transition (Clients ι) ι

variable {ι : Type} [DecidableEq ι]

/-- These requests, called side by side from any tables. -/
def sideBySide (requests : ι → Request) : System (Clients ι) ι :=
  tables.running fun i => (requests i).program

section
variable (s : Services) (id : Nat) (actor : Actor)

/-- A claim after its transaction. -/
def afterClaim : Program Lock Write Db (Except HttpException Unit) :=
  (ignored do
    let acquired ← getTicketById s id actor
    pure acquired.ticket).run

/-- The end of a claim's transaction. -/
def settles : Except HttpException (List Write × Unit) → Program Lock Write Db (Except HttpException Unit)
  | .ok (writes, _) => .write writes [.row id] fun _ => .write [] [.autoAssignment] fun _ => afterClaim s id actor
  | .error e => .write [] [.row id] fun _ => .write [] [.autoAssignment] fun _ => .done (.error e)

theorem program_claimOvertimeTicket : (program s (.claimOvertimeTicket id actor)).run =
    .lock .autoAssignment fun _ => .lock (.row id) fun _ => .write [] [] fun db =>
      settles s id actor (claimWrites s id actor db) := by
  change Program.lock _ _ = _
  congr
  funext _
  change Program.lock _ _ = _
  congr
  funext _
  change Program.write _ _ _ = _
  congr
  funext db
  beta_reduce
  generalize claimWrites s id actor db = x
  cases x with
  | ok r => rfl
  | error e => rfl

end

/-! ## Claims -/

theorem silent_bind {α β : Type} {m : AccessM α} {f : α → AccessM β} (hm : m.run.Silent)
    (hf : ∀ a, (f a).run.Silent) : (m >>= f).run.Silent := by
  apply Program.Silent.bind hm
  intro x
  cases x with
  | ok a => exact hf a
  | error e => trivial

theorem silent_getTicketById (s : Services) (id : Nat) (viewer : Actor) : (getTicketById s id viewer).run.Silent := by
  have hselect : select.run.Silent := ⟨rfl, fun _ => trivial⟩
  apply silent_bind hselect
  intro db
  apply silent_bind
  · cases db.ticket? id with
    | none => trivial
    | some row => trivial
  · intro row
    trivial

variable {s : Services} {id : Nat} {actor : Actor}

theorem silent_afterClaim : (afterClaim s id actor).Silent := by
  apply silent_bind
  · exact silent_bind (silent_getTicketById s id actor) fun _ => trivial
  · exact fun _ => trivial

/-- After its transaction a claim makes no writes. -/
theorem silent_settled {held : List Lock} {x : Except HttpException (List Write × Unit)} (db : Db) :
    (Program.proceed (held, settles s id actor x) db).2.Silent := by
  cases x with
  | ok r => exact ⟨rfl, fun _ => silent_afterClaim⟩
  | error e => exact ⟨rfl, fun _ => trivial⟩

theorem claimWrites_eq_ok {db : Db} {writes : List Write} {u : Unit} (h : claimWrites s id actor db = .ok (writes, u)) :
    ∃ row claimed, db.ticket? id = some row ∧ row.overtimeDate ≠ none ∧ row.status = .open ∧ row.assignedToId = none ∧
      (∃ staff, s.activeUserRow actor.id = some staff ∧ staff.role = actor.role) ∧
      canClaimOvertime s row actor = true ∧ claimedTicket s row actor.id (busyCount db actor.id) = .ok claimed ∧
      writes = [.save claimed] := by
  simp only [claimWrites, bind_eq_ok, orError_eq_ok, check_eq_ok] at h
  obtain ⟨row, hrow, -, ⟨hdate, hopen, hnone⟩, -, ⟨hstaff, hclaims⟩, claimed, hclaimed, hwrites⟩ := h
  cases hwrites
  obtain ⟨staff, hrow', hrole⟩ := (Option.any_eq_true _ _).mp hstaff
  exact ⟨row, claimed, hrow, hdate, hopen, hnone, ⟨staff, hrow', of_decide_eq_true hrole⟩, hclaims, hclaimed, rfl⟩

/-- A claim, resumed with what its accesses found. -/
abbrev claiming (s : Services) (id : Nat) (actor : Actor) (found : List Db) : Call :=
  Program.resume ([], (program s (.claimOvertimeTicket id actor)).run) found

/-- The only writes of a claim are those of its transaction, which has read the tables under both locks. -/
theorem claiming_writes {found : List Db} (h : (claiming s id actor found).2.nextWrites ≠ []) :
    ∃ d₁ d₂ db, found = [d₁, d₂, db] ∧
      claimWrites s id actor db = .ok ((claiming s id actor found).2.nextWrites, ()) := by
  unfold claiming at h ⊢
  rw [program_claimOvertimeTicket] at h ⊢
  match found with
  | [] => exact absurd rfl h
  | [_] => exact absurd rfl h
  | [_, _] => exact absurd rfl h
  | [d₁, d₂, db] =>
    refine ⟨d₁, d₂, db, rfl, ?_⟩
    change (settles s id actor (claimWrites s id actor db)).nextWrites ≠ [] at h
    change _ = Except.ok ((settles s id actor (claimWrites s id actor db)).nextWrites, ())
    generalize claimWrites s id actor db = x at h ⊢
    cases x with
    | ok r => rfl
    | error e => exact absurd rfl h
  | d₁ :: d₂ :: db :: d₄ :: rest =>
    exact absurd (Program.Silent.resume (silent_settled d₄) rest).nextWrites h

/-- A claim that returns has made them. -/
theorem claiming_returns {found : List Db} {u : Unit} (h : (claiming s id actor found).2 = .done (.ok u)) :
    ∃ d₁ d₂ db rest, found = [d₁, d₂] ++ db :: rest ∧ rest ≠ [] ∧
      ∃ writes, claimWrites s id actor db = .ok (writes, ()) := by
  unfold claiming at h
  rw [program_claimOvertimeTicket] at h
  match found with
  | [] => cases h
  | [_] => cases h
  | [_, _] => cases h
  | [d₁, d₂, db] =>
    change settles s id actor (claimWrites s id actor db) = _ at h
    generalize claimWrites s id actor db = x at h
    cases x with
    | ok r => cases h
    | error e => cases h
  | d₁ :: d₂ :: db :: d₄ :: rest =>
    refine ⟨d₁, d₂, db, d₄ :: rest, rfl, List.cons_ne_nil _ _, ?_⟩
    change (Program.resume (Program.proceed (_, settles s id actor (claimWrites s id actor db)) d₄) rest).2 = _ at h
    cases hwork : claimWrites s id actor db with
    | ok r => exact ⟨r.1, rfl⟩
    | error e =>
      rw [hwork] at h
      cases rest with
      | nil => cases h
      | cons d₅ rest =>
        change (Program.resume (_, Program.done (Except.error e)) rest).2 = _ at h
        rw [Program.resume_done] at h
        cases h

/-- What a claim holds when it reads the tables. -/
theorem claiming_reads (d₁ d₂ : Db) : claiming s id actor [d₁, d₂] =
    ([.row id, .autoAssignment], .write [] [] fun db => settles s id actor (claimWrites s id actor db)) := by
  unfold claiming
  rw [program_claimOvertimeTicket]
  rfl

/-! ## Acquisitions -/

/-- In this step the claim of an actor makes its writes. -/
def Acquires (requests : ι → Request) (id : Nat) (actor : Actor) (e : Access ι) : Prop :=
  (requests e.label).op = .claimOvertimeTicket id actor ∧ (e.before.call e.label).2.nextWrites ≠ []

/-- In this step the claim reads the tables, under both locks, and until its writes no other call works with the
assignment lock. -/
structure Counts (history : List (Access ι)) (id : Nat) (reading e : Access ι) : Prop where
  label : reading.label = e.label
  held : (reading.before.call e.label).1 = [.row id, .autoAssignment]
  before : ∃ first mid rest, history = first ++ reading :: mid ++ e :: rest ∧
    ∀ m ∈ mid, m.label ≠ e.label ∧ .autoAssignment ∉ (m.before.call m.label).1

variable {requests : ι → Request} {history first mid rest : List (Access ι)} {e e' : Access ι}
  {p a b : Clients ι}

theorem call_claims (h : Run (sideBySide requests) history p) {i : ι}
    (hop : (requests i).op = .claimOvertimeTicket id actor) :
    p.call i = claiming (requests i).reads id actor (found history i) := by
  rw [Run.resumed h i, Request.program, hop]

/-- A row that a call has locked is written by no other. -/
theorem row_untouched (h : Segment (sideBySide requests) a mid b) {i : ι} (ha : Exclusive a)
    (hlocked : .row id ∈ (a.call i).1) (hothers : ∀ m ∈ mid, m.label ≠ i) {row : Ticket}
    (hrow : a.shared.data.ticket? id = some row) : b.shared.data.ticket? id = some row := by
  refine (Segment.untouched (P := fun db => db.ticket? id = some row) ?_ h ha hlocked hothers hrow).1
  intro db w hfree hdb
  apply Write.ticket?_apply hdb
  exact fun hid => hfree (List.mem_map_of_mem hid)

/-- The row that an acquisition writes is the one that its claim has checked. -/
theorem acquires_eq (h : Run (sideBySide requests) (first ++ e :: rest) p) (he : Acquires requests id actor e) :
    ∃ reading, Counts (first ++ e :: rest) id reading e ∧
      ∃ row claimed, reading.before.shared.data.ticket? id = some row ∧ e.before.shared.data.ticket? id = some row ∧
        claimWrites (requests e.label).reads id actor reading.before.shared.data = .ok ([.save claimed], ()) ∧
        claimedTicket (requests e.label).reads row actor.id (busyCount reading.before.shared.data actor.id) =
          .ok claimed ∧
        e.after.shared.data = e.before.shared.data.save claimed := by
  obtain ⟨hrun, ⟨r, hr, hafter⟩, -⟩ := h.around
  have hcall := call_claims hrun he.1
  obtain ⟨d₁, d₂, db, hfound, hwork⟩ := claiming_writes (hcall ▸ he.2)
  rw [← hcall] at hwork
  obtain ⟨row, claimed, hrow, -, -, -, -, -, hclaimed, hwrites⟩ := claimWrites_eq_ok hwork
  replace hfound : found first e.label = [d₁, d₂] ++ db :: [] := hfound
  obtain ⟨earlier, reading, mid, rfl, hlabel, rfl, hearlier, hmid⟩ := found_eq_append hfound
  have hothers := found_eq_nil hmid
  -- at its reading the claim holds both locks
  obtain ⟨hrun', ⟨r', hr', hafter'⟩, hsegment⟩ := hrun.around
  have hreads : reading.before.call e.label = _ := (call_claims hrun' he.1).trans (hearlier ▸ claiming_reads d₁ d₂)
  rw [hlabel, hreads] at hr'
  have hheld : (reading.after.call e.label).1 = [.row id, .autoAssignment] := by
    rw [hafter', hlabel, Pool.after_call, Program.proceed_of_step hr']
    rfl
  have hdata : reading.after.shared.data = reading.before.shared.data := by
    rw [hafter']
    exact Program.data_of_step hr'
  -- and keeps them until it writes
  have hexclusive : Exclusive reading.after := by
    rw [hafter']
    exact hrun'.exclusive.step (hlabel ▸ hreads ▸ hr')
  have hrow' := row_untouched hsegment hexclusive (by simp [hheld]) hothers (hdata ▸ hrow)
  have hlock := (Segment.untouched (P := fun _ => True) (fun _ _ _ _ => trivial) hsegment hexclusive
    (show .autoAssignment ∈ (reading.after.call e.label).1 by simp [hheld]) hothers trivial).2
  have hcounts : Counts ((earlier ++ reading :: mid) ++ e :: rest) id reading e :=
    ⟨hlabel, by rw [hreads], earlier, mid, rest, rfl, fun m hm => ⟨hothers m hm, hlock m hm⟩⟩
  refine ⟨reading, hcounts, row, claimed, hrow, hrow', hwrites ▸ hwork, hclaimed, ?_⟩
  rw [hafter]
  exact (Program.data_of_step hr).trans (by rw [hwrites]; rfl)

/-! ## One winner -/

/-- Who may acquire an overtime ticket. -/
structure MayAcquire (r : Request) (row : Ticket) (actor : Actor) : Prop where
  active : ∃ u ∈ r.roster.users, u.id = actor.id ∧ u.active = true ∧ u.role = actor.role
  other : row.requesterId ≠ actor.id
  staff : isOvertimeStaff actor.role = true
  clockedIn : ∃ date, row.overtimeDate = some date ∧ ∃ a ∈ r.roster.attendance, a.userId = actor.id ∧ a.date = date ∧
    a.status = .present ∧ a.clockInTime.isSome = true
  specialized : row.ticketType = .specialized_concerns → r.services.isSpecializedSupport actor.role = true

theorem mayAcquire_of_claimWrites {r : Request} {db : Db} {row : Ticket} {writes : List Write}
    (h : claimWrites r.reads id actor db = .ok (writes, ())) (hrow : db.ticket? id = some row) :
    MayAcquire r row actor := by
  obtain ⟨row', claimed, hrow', hdate, -, -, ⟨staff, hstaff, hrole⟩, hclaims, -, -⟩ := claimWrites_eq_ok h
  obtain rfl : row = row' := Option.some.inj (hrow.symm.trans hrow')
  obtain ⟨date, hdate⟩ := Option.ne_none_iff_exists'.mp hdate
  simp only [canClaimOvertime, hdate, Bool.and_eq_true, Bool.or_eq_true, decide_eq_true_eq] at hclaims
  obtain ⟨⟨⟨⟨-, hother⟩, hovertime⟩, hspecialized⟩, hclock⟩ := hclaims
  refine ⟨?_, hother, hovertime, ⟨date, hdate, ?_⟩, fun htype => ?_⟩
  · have hfound := List.find?_some hstaff
    simp only [Bool.and_eq_true, decide_eq_true_eq] at hfound
    exact ⟨staff, List.mem_of_find?_eq_some hstaff, hfound.1, hfound.2, hrole⟩
  · change r.roster.hasOvertimeClockIn actor.id date = true at hclock
    obtain ⟨record, hrecord, hclock⟩ := (Option.any_eq_true _ _).mp hclock
    have hfound := List.find?_some hrecord
    simp only [Bool.and_eq_true, decide_eq_true_eq] at hfound
    exact ⟨record, List.mem_of_find?_eq_some hrecord, hfound.1.1, hfound.1.2, hfound.2, hclock⟩
  · rcases hspecialized with hne | hsupport
    · exact absurd htype hne
    · exact hsupport

/-- An assigned, running or paused ticket of the staff member. -/
def HasWork (db : Db) (userId : Nat) : Prop :=
  ∃ t ∈ db.tickets, t.assignedToId = some userId ∧ (t.status = .assigned ∨ t.status = .in_progress ∨ t.status = .pause)

theorem busyCount_eq_zero {db : Db} {userId : Nat} : busyCount db userId = 0 ↔ ¬ HasWork db userId := by
  have hcounts : ∀ t, countsAsBusy userId t = true ↔
      t.assignedToId = some userId ∧ (t.status = .assigned ∨ t.status = .in_progress ∨ t.status = .pause) := by
    intro t
    simp [countsAsBusy, isBusyStatus, or_assoc]
  rw [busyCount, Db.count_eq_zero, HasWork]
  push Not
  apply forall_congr'
  intro t
  rw [← Bool.not_eq_true, hcounts t]
  push Not
  exact Iff.rfl

/-- Running since the claim. -/
structure Starts (t : Ticket) (now : Int) : Prop where
  status : t.status = .in_progress
  isSlaWaiting : t.isSlaWaiting = false
  slaStartedAt : t.slaStartedAt = some now

/-- In the queue of its owner, without a clock. -/
structure Queues (t : Ticket) : Prop where
  status : t.status = .assigned
  isSlaWaiting : t.isSlaWaiting = true
  slaStartedAt : t.slaStartedAt = none
  slaDeadline : t.slaDeadline = none

theorem claimedTicket_sla {row claimed : Ticket} {userId busy : Nat}
    (h : claimedTicket s row userId busy = .ok claimed) :
    claimed.assignedToId = some userId ∧ (busy = 0 → Starts claimed s.now) ∧ (busy ≠ 0 → Queues claimed) := by
  unfold claimedTicket at h
  dsimp only at h
  split_ifs at h with hbusy
  · cases h
    refine ⟨rfl, fun hzero => by omega, fun _ => ⟨?_, ?_, ?_, rfl⟩⟩
    · rfl
    · exact decide_eq_true hbusy
    · rfl
  · obtain ⟨slaDeadline, -, rfl⟩ := map_eq_ok.mp h
    refine ⟨rfl, fun _ => ⟨?_, ?_, ?_⟩, fun hne => by omega⟩
    · rfl
    · exact decide_eq_false hbusy
    · rfl

theorem ticket?_save {db : Db} {row t : Ticket} (h : db.ticket? t.id = some row) :
    (db.save t).ticket? t.id = some (savedRow row t) := by
  obtain ⟨version, hv⟩ := savedRow_eq row t
  simp only [Db.save, h]
  rw [Db.ticket?_setTicket, hv, if_pos rfl, h]
  rfl

/-- The ticket is Open and nobody's. -/
def UnassignedOpen (db : Db) (id : Nat) : Prop :=
  ∃ row, db.ticket? id = some row ∧ row.status = .open ∧ row.assignedToId = none

/-- What an acquisition finds and leaves. -/
theorem acquires_spec (h : Run (sideBySide requests) (first ++ e :: rest) p) (he : Acquires requests id actor e) :
    ∃ row acquired reading, e.before.shared.data.ticket? id = some row ∧ row.status = .open ∧ row.assignedToId = none ∧
      MayAcquire (requests e.label) row actor ∧
      e.after.shared.data.ticket? id = some acquired ∧ acquired.assignedToId = some actor.id ∧
      Counts (first ++ e :: rest) id reading e ∧
      (Starts acquired (requests e.label).services.now ↔ ¬ HasWork reading.before.shared.data actor.id) ∧
      (Queues acquired ↔ HasWork reading.before.shared.data actor.id) := by
  obtain ⟨reading, hcounts, row, claimed, hrow, hrow', hwork, hclaimed, hafter⟩ := acquires_eq h he
  obtain ⟨row', -, hrow'', -, hopen, hnone, -, -, -, -⟩ := claimWrites_eq_ok hwork
  obtain rfl : row = row' := Option.some.inj (hrow.symm.trans hrow'')
  have hid : claimed.id = id := (claimedTicket_id _ hclaimed).trans (Db.id_of_ticket? hrow)
  obtain ⟨howner, hstarts, hqueues⟩ := claimedTicket_sla hclaimed
  obtain ⟨version, hversion⟩ := savedRow_eq row claimed
  have hmay := mayAcquire_of_claimWrites hwork hrow
  refine ⟨row, savedRow row claimed, reading, hrow', hopen, hnone, hmay, ?_, ?_, hcounts, ?_⟩
  · rw [hafter, ← hid]
    exact ticket?_save (hid ▸ hrow')
  · rw [hversion]
    exact howner
  · rw [hversion, ← busyCount_eq_zero]
    have hbusy : HasWork reading.before.shared.data actor.id ↔ busyCount reading.before.shared.data actor.id ≠ 0 := by
      rw [ne_eq, busyCount_eq_zero, not_not]
    rw [hbusy]
    constructor
    · refine ⟨fun hs => ?_, fun hfree => ?_⟩
      · by_contra hne
        have hstatus : claimed.status = .assigned := (hqueues hne).status
        cases hstatus.symm.trans hs.status
      · have hs := hstarts hfree
        exact ⟨hs.status, hs.isSlaWaiting, hs.slaStartedAt⟩
    · refine ⟨fun hq hfree => ?_, fun hne => ?_⟩
      · have hstatus : claimed.status = .assigned := hq.status
        cases hstatus.symm.trans (hstarts hfree).status
      · have hq := hqueues hne
        exact ⟨hq.status, hq.isSlaWaiting, hq.slaStartedAt, hq.slaDeadline⟩

/-- Between two acquisitions the ticket was released. -/
theorem released_between {actor' : Actor} (h : Run (sideBySide requests) (first ++ e :: (mid ++ e' :: rest)) p)
    (he : Acquires requests id actor e) (he' : Acquires requests id actor' e') :
    ∃ m ∈ mid, UnassignedOpen m.after.shared.data id := by
  obtain ⟨_, acquired, _, -, -, -, -, hacquired, howner, -⟩ := acquires_spec h he
  have h' : Run (sideBySide requests) ((first ++ e :: mid) ++ e' :: rest) p := by
    simpa using h
  obtain ⟨row, _, _, hrow, hopen, hnone, -⟩ := acquires_spec h' he'
  rcases List.eq_nil_or_concat mid with rfl | ⟨earlier, m, rfl⟩
  · -- nothing in between
    obtain ⟨-, -, hsegment⟩ := h.around
    cases hsegment with
    | cons _ _ =>
      rw [hacquired] at hrow
      cases hrow
      rw [howner] at hnone
      cases hnone
  · refine ⟨m, by simp, row, ?_, hopen, hnone⟩
    have hrun : Run (sideBySide requests) ((first ++ e :: earlier) ++ m :: (e' :: rest)) p := by
      simpa using h
    obtain ⟨-, -, hsegment⟩ := hrun.around
    cases hsegment with
    | cons _ _ => exact hrow

theorem acquires_of_return (h : Run (sideBySide requests) history p) {i : ι}
    (hop : (requests i).op = .claimOvertimeTicket id actor) (hreturns : (p.call i).2 = .done (.ok ())) :
    ∃ e ∈ history, e.label = i ∧ Acquires requests id actor e := by
  rw [call_claims h hop] at hreturns
  obtain ⟨d₁, d₂, db, later, hfound, hlater, writes, hwork⟩ := claiming_returns hreturns
  obtain ⟨d₄, later', rfl⟩ := List.exists_cons_of_ne_nil hlater
  replace hfound : found history i = [d₁, d₂, db] ++ d₄ :: later' := hfound
  obtain ⟨first, e, rest, rfl, rfl, -, hfirst, -⟩ := found_eq_append hfound
  obtain ⟨hrun, -, -⟩ := h.around
  refine ⟨e, by simp, rfl, hop, ?_⟩
  obtain ⟨_, claimed, -, -, -, -, -, -, -, rfl⟩ := claimWrites_eq_ok hwork
  rw [call_claims hrun hop, hfirst]
  unfold claiming
  rw [program_claimOvertimeTicket]
  change (settles _ _ _ (claimWrites _ _ _ _)).nextWrites ≠ []
  rw [hwork]
  exact List.cons_ne_nil _ _

/-- **Overtime acquisition has one winner.** -/
theorem overtime_has_one_winner (h : Run (sideBySide requests) history p) (id : Nat) :
    -- an acquisition takes an Open ticket of nobody's for someone who may acquire it, running or in the queue by the
    -- work that its transaction counted
    (∀ e ∈ history, ∀ actor, Acquires requests id actor e →
      ∃ row acquired reading, e.before.shared.data.ticket? id = some row ∧
        row.status = .open ∧ row.assignedToId = none ∧ MayAcquire (requests e.label) row actor ∧
        e.after.shared.data.ticket? id = some acquired ∧ acquired.assignedToId = some actor.id ∧
        Counts history id reading e ∧
        (Starts acquired (requests e.label).services.now ↔ ¬ HasWork reading.before.shared.data actor.id) ∧
        (Queues acquired ↔ HasWork reading.before.shared.data actor.id)) ∧
    -- between two of them the ticket was Open and nobody's again
    (∀ first e mid e' rest actor actor', history = first ++ e :: (mid ++ e' :: rest) → Acquires requests id actor e →
      Acquires requests id actor' e' → ∃ m ∈ mid, UnassignedOpen m.after.shared.data id) ∧
    -- a claim that returns has acquired the ticket
    ∀ i actor, (requests i).op = .claimOvertimeTicket id actor → (p.call i).2 = .done (.ok ()) →
      ∃ e ∈ history, e.label = i ∧ Acquires requests id actor e := by
  refine ⟨fun e he actor hacquires => ?_, fun first e mid e' rest actor actor' heq he he' => ?_,
    fun i actor hop hreturns => acquires_of_return h hop hreturns⟩
  · obtain ⟨first, rest, rfl⟩ := List.append_of_mem he
    exact acquires_spec h hacquires
  · subst heq
    exact released_between h he he'

/-! ## Two claimers -/

/-- Requester 1 files an overtime request, and both technicians claim it. -/
def overtimeRequests : Nat → Request
  | 0 => ⟨overtimeOffice 0, overtimeRoster, .createTicket request (officeActor 1)⟩
  | 1 => ⟨overtimeOffice 1000, overtimeRoster, .claimOvertimeTicket 1 (officeActor 2)⟩
  | _ => ⟨overtimeOffice 1000, overtimeRoster, .claimOvertimeTicket 1 (officeActor 3)⟩

def overtimeThreads : Clients Nat :=
  ⟨⟨noRows, []⟩, fun i => ([], (overtimeRequests i).program)⟩

theorem overtime_has_one_winner_of_two :
    ∃ log, tables.execute ([], overtimeThreads) [0, 0, 0, 0, 1, 1, 1, 1, 1, 2, 2, 2, 2, 2] = some log ∧
      ∃ e ∈ log.1, Acquires overtimeRequests 1 (officeActor 2) e ∧
        ∃ acquired, e.after.shared.data.ticket? 1 = some acquired ∧ acquired.assignedToId = some 2 := by
  have hany : ((tables.execute ([], overtimeThreads) [0, 0, 0, 0, 1, 1, 1, 1, 1, 2, 2, 2, 2, 2]).any fun log =>
      log.1.any fun e => e.label = 1 ∧ (e.before.call e.label).2.nextWrites ≠ []) = true := by
    decide +kernel
  obtain ⟨log, hlog, hstep⟩ := (Option.any_eq_true _ _).mp hany
  obtain ⟨e, he, hwrites⟩ := List.any_eq_true.mp hstep
  obtain ⟨hlabel, hwrites⟩ := of_decide_eq_true hwrites
  have hacquires : Acquires overtimeRequests 1 (officeActor 2) e := ⟨by rw [hlabel]; rfl, hwrites⟩
  have hinit : (sideBySide overtimeRequests).init overtimeThreads := ⟨rfl, fun _ => rfl⟩
  have hrun : Run (sideBySide overtimeRequests) log.1 log.2 := Lib.run_of_execute hinit hlog
  obtain ⟨_, acquired, _, -, -, -, -, hrow, howner, -⟩ :=
    (overtime_has_one_winner hrun 1).1 e he (officeActor 2) hacquires
  exact ⟨log, hlog, e, he, hacquires, acquired, hrow, howner⟩

end ComplianceHub.Tickets.Interleaved
