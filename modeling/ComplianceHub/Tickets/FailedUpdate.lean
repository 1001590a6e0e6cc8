import ComplianceHub.Tickets.StepByStep

/-!
# Updates that fail

* `SameRows`, with the accesses that keep them (`silent_ofExcept_bind`, `failsQuietly_transaction`, …);
* `WritesEarly` : the updates that reach a write before their last check;
* `failed_update_changes_nothing_iff` : all other updates, and only they, have changed nothing where they fail.
-/

namespace ComplianceHub.Tickets.Interleaved

open ComplianceHub.Lib ComplianceHub.Sla

/-! ## Accesses that change nothing -/

/-- The same tickets, justifications and events. -/
structure SameRows (db db' : Db) : Prop where
  tickets : db'.tickets = db.tickets
  justifications : db'.justifications = db.justifications
  statusEvents : db'.statusEvents = db.statusEvents

theorem SameRows.refl (db : Db) : SameRows db db := ⟨rfl, rfl, rfl⟩

instance : Nonempty Db := ⟨noRows⟩

section
variable {α β : Type} {f : α → AccessM β}

theorem yields_ofExcept {x : Except HttpException α} {trace : List (Db × Db)} {result : Except HttpException α} :
    Yields tables (ofExcept x) trace result ↔ trace = [] ∧ result = x := trace_done

theorem yields_select {trace : List (Db × Db)} {result : Except HttpException Db} :
    Yields tables select trace result ↔ ∃ db, trace = [(db, db)] ∧ result = .ok db := by
  unfold Yields select
  rw [ExceptT.run_mk, trace_write]
  simp only [trace_done]
  constructor
  · rintro ⟨db, _, rfl, rfl, rfl⟩
    exact ⟨db, rfl, rfl⟩
  · rintro ⟨db, rfl, rfl⟩
    exact ⟨db, [], rfl, rfl, rfl⟩

theorem yields_write {writes : List Write} {trace : List (Db × Db)} {result : Except HttpException Db} :
    Yields tables (write writes) trace result ↔ ∃ db, trace = [(db, tables.applyAll db writes)] ∧ result = .ok db := by
  unfold Yields write
  rw [ExceptT.run_mk, trace_write]
  simp only [trace_done]
  constructor
  · rintro ⟨db, _, rfl, rfl, rfl⟩
    exact ⟨db, rfl, rfl⟩
  · rintro ⟨db, rfl, rfl⟩
    exact ⟨db, [], rfl, rfl, rfl⟩

theorem silent_pure (a : α) : Silent tables SameRows (pure a : AccessM α) := by
  intro trace result h access haccess
  rw [(yields_pure.mp h).1] at haccess
  cases haccess

theorem silent_ofExcept (x : Except HttpException α) : Silent tables SameRows (ofExcept x) := by
  intro trace result h access haccess
  rw [(yields_ofExcept.mp h).1] at haccess
  cases haccess

theorem silent_ofExcept_bind {x : Except HttpException α} (h : ∀ a, x = .ok a → Silent tables SameRows (f a)) :
    Silent tables SameRows (ofExcept x >>= f) := by
  cases x with
  | ok a => exact h a rfl
  | error e =>
    intro trace result hends access haccess
    have hnil : trace = [] := (trace_done.mp hends).1
    rw [hnil] at haccess
    cases haccess

theorem failsQuietly_ofExcept_bind {x : Except HttpException α}
    (h : ∀ a, x = .ok a → FailsQuietly tables SameRows (f a)) : FailsQuietly tables SameRows (ofExcept x >>= f) := by
  cases x with
  | ok a => exact h a rfl
  | error e =>
    intro trace e' hends access haccess
    have hnil : trace = [] := (trace_done.mp hends).1
    rw [hnil] at haccess
    cases haccess

theorem silent_select : Silent tables SameRows select := by
  intro trace result h access haccess
  obtain ⟨db, rfl, -⟩ := yields_select.mp h
  rw [List.mem_singleton] at haccess
  rw [haccess]
  exact .refl db

theorem silent_write_nil : Silent tables SameRows (write []) := silent_select

theorem not_canFail_write (writes : List Write) : ¬ CanFail tables (write writes) := by
  rintro ⟨trace, e, h⟩
  obtain ⟨db, -, hresult⟩ := yields_write.mp h
  cases hresult

theorem not_canFail_ignored {m : AccessM α} (h : ¬ CanFail tables m) : ¬ CanFail tables (ignored m) :=
  not_canFail_bind h fun _ => not_canFail_pure ()

theorem not_canFail_whenSome {x : Option α} {g : α → AccessM Unit} (h : ∀ a, ¬ CanFail tables (g a)) :
    ¬ CanFail tables (whenSome x g) := by
  cases x with
  | none => exact not_canFail_pure ()
  | some a => exact h a

/-- A swallowed failure under the lock. -/
theorem not_canFail_locked_swallowed (m : AccessM Unit) : ¬ CanFail tables (withAutoAssignmentLock (swallowed m)) := by
  rintro ⟨trace, e, h⟩
  have hlock : Program.Trace tables (.lock Lock.autoAssignment fun _ => (swallowed m).run.bind fun result =>
    .write [] [Lock.autoAssignment] fun _ => .done result) trace (.error e) := h
  obtain ⟨_, _, -, h⟩ := trace_lock.mp hlock
  obtain ⟨result, _, _, hm, h, -⟩ := trace_bind.mp h
  obtain ⟨_, _, -, h⟩ := trace_write.mp h
  obtain ⟨_, _, _, -, hm, -⟩ := trace_bind.mp hm
  rw [(trace_done.mp hm).2] at h
  cases (trace_done.mp h).2

/-- A transaction that fails has written nothing. -/
theorem failsQuietly_transaction (rows : List Nat) (work : Db → Except HttpException (List Write × α)) :
    FailsQuietly tables SameRows (transaction rows work) := by
  have hall : ∀ (ids : List Nat) (trace : List (Db × Db)) (e : HttpException),
      Program.Trace tables (ids.foldr (fun id rest => .lock (.row id) fun _ => rest) (lockedWork rows work)) trace
        (.error e) → Quiet SameRows trace := by
    intro ids
    induction ids with
    | nil =>
      intro trace e h
      obtain ⟨db, rest, rfl, hwork⟩ := trace_write.mp h
      intro access haccess
      split at hwork
      · obtain ⟨_, _, -, hdone⟩ := trace_write.mp hwork
        cases (trace_done.mp hdone).2
      · obtain ⟨db', _, rfl, hdone⟩ := trace_write.mp hwork
        rw [(trace_done.mp hdone).1] at haccess
        simp only [List.mem_cons, List.not_mem_nil, or_false] at haccess
        rcases haccess with rfl | rfl
        · exact .refl db
        · exact .refl db'
    | cons id rest ih =>
      intro trace e h
      obtain ⟨db, tail, rfl, htail⟩ := trace_lock.mp h
      intro access haccess
      rcases List.mem_cons.mp haccess with rfl | haccess
      · exact .refl db
      · exact ih tail e htail access haccess
  exact hall rows

theorem canFail_transaction {rows : List Nat} {work : Db → Except HttpException (List Write × α)} {db : Db}
    {e : HttpException} (h : work db = .error e) : CanFail tables (transaction rows work) := by
  have hall : ∀ ids : List Nat, ∃ trace,
      Program.Trace tables (ids.foldr (fun id rest => .lock (.row id) fun _ => rest) (lockedWork rows work)) trace
        (.error e) := by
    intro ids
    induction ids with
    | nil =>
      refine ⟨[(db, db), (db, db)], trace_write.mpr ⟨db, _, rfl, ?_⟩⟩
      rw [h]
      exact .write db (.done _)
    | cons id rest ih =>
      obtain ⟨trace, htrace⟩ := ih
      exact ⟨_, .lock db htrace⟩
  obtain ⟨trace, htrace⟩ := hall rows
  exact ⟨trace, e, htrace⟩

end

namespace StepByStep

section
variable (s : Services)

/-! ## Writes before the last check -/

/-- The checks before the first write pass, and the entity is edited. -/
structure Admitted (db : Db) (id : Nat) (dto : UpdateTicketDto) (actor : Actor) (loaded : LoadedTicket) (t : Ticket)
    (issue : Option TicketIssueType) (target : TicketStatus) : Prop where
  loads : loadUpdated s db id dto actor = .ok loaded
  isStaff : actor.role ≠ .user
  edits : editedTicket s (updateContext db loaded actor) loaded.issueTypeConfig dto = .ok (t, issue)
  asks : dto.status = some target
  statusChange : assertStatusChange s (updateContext db loaded actor) t dto target = .ok ()

/-- A justification is saved, or the queue of an owner is pushed back. -/
def SavesFirst (t : Ticket) (issue : Option TicketIssueType) (dto : UpdateTicketDto) (target : TicketStatus) : Prop :=
  (target = .freeze ∨ target = .pause) ∧ trim (dto.statusJustification.getD "") ≠ "" ∨
    resumesWork t.status target = true ∧ t.assignedToId.isSome = true ∧ (suspendOrResume s t issue target).isOk = true

/-- The update reaches a write before its last check. -/
def WritesEarly (db : Db) (id : Nat) (dto : UpdateTicketDto) (actor : Actor) : Prop :=
  ∃ loaded t issue target, Admitted s db id dto actor loaded t issue target ∧ SavesFirst s t issue dto target

variable {s} {c : UpdateContext} {t : Ticket} {issue : Option TicketIssueType} {dto : UpdateTicketDto}
  {target : TicketStatus}

theorem not_silent_justify (justification : StatusJustification) :
    ¬ Silent tables SameRows (ignored (write [.justify justification])) := by
  apply not_silent_bind
  intro h
  have hsame := (h _ _ (yields_write.mpr ⟨noRows, rfl, rfl⟩) _ (List.mem_singleton_self _)).justifications
  cases hsame

/-- An assigned ticket of an owner. -/
def assignedRow (id owner : Nat) : Ticket :=
  { id, requesterId := owner, assignedToId := some owner, status := .assigned, createdAt := 0 }

def assignedOnly (id owner : Nat) : Db where
  tickets := [assignedRow id owner]
  escalations := []
  primaryKey := List.nodup_singleton _
  escalationKey := List.nodup_nil

theorem not_silent_pushBack {owner : Nat} (howner : t.assignedToId = some owner) :
    ¬ Silent tables SameRows (pushBack s t) := by
  apply not_silent_bind_right (yields_select.mpr ⟨assignedOnly (t.id + 1) owner, rfl, rfl⟩)
  apply not_silent_bind
  intro h
  have hpushed : pushedBack s (assignedOnly (t.id + 1) owner) t =
      [{ assignedRow (t.id + 1) owner with isSlaWaiting := true, slaPausedAt := some s.now }] := by
    simp [pushedBack, howner, assignedOnly, assignedRow]
  rw [hpushed] at h
  have hsame := (h _ _ (yields_write.mpr ⟨assignedOnly (t.id + 1) owner, rfl, rfl⟩) _ (List.mem_singleton_self _)).tickets
  simp [tables, Store.applyAll, Write.apply, Db.save, Db.ticket?, Db.setTicket, assignedOnly, assignedRow, savedRow] at hsame

theorem silent_pushBack (howner : t.assignedToId = none) : Silent tables SameRows (pushBack s t) := by
  apply silent_select.bind
  intro db
  rw [pushedBack, howner]
  exact silent_write_nil.bind fun _ => silent_pure ()

theorem not_silent_changeStatus (h : SavesFirst s t issue dto target) :
    ¬ Silent tables SameRows (changeStatus s c t issue dto target) := by
  have hresolvable : target ≠ .resolved → assertResolvable t dto target = .ok () := by
    intro hne
    simp [assertResolvable, check, hne, bind, Except.bind]
  rcases h with ⟨htarget, hreason⟩ | ⟨hresumes, howner, hclock⟩
  · have hjustified : statusJustification c dto target = .ok (some ⟨c.original.id, target,
        trim (dto.statusJustification.getD ""), c.actor.id⟩) := by
      unfold statusJustification
      rw [if_pos htarget, if_neg hreason]
    unfold changeStatus
    rw [hresolvable (by rcases htarget with rfl | rfl <;> decide), hjustified]
    apply not_silent_bind_right (yields_ofExcept.mpr ⟨rfl, rfl⟩)
    apply not_silent_bind_right (yields_ofExcept.mpr ⟨rfl, rfl⟩)
    exact not_silent_bind (not_silent_justify _)
  · obtain rfl := resumesWork_eq_true hresumes
    obtain ⟨owner, howner⟩ := Option.isSome_iff_exists.mp howner
    cases hmoved : suspendOrResume s t issue .in_progress with
    | error e =>
      rw [hmoved] at hclock
      cases hclock
    | ok moved =>
      obtain ⟨sla, rfl⟩ := suspendOrResume_eq s hmoved
      unfold changeStatus
      rw [hresolvable (by decide), hmoved, hresumes]
      apply not_silent_bind_right (yields_ofExcept.mpr ⟨rfl, rfl⟩)
      apply not_silent_bind_right (yields_ofExcept.mpr ⟨rfl, rfl⟩)
      apply not_silent_bind_right (yields_pure.mpr ⟨rfl, rfl⟩)
      apply not_silent_bind_right (yields_ofExcept.mpr ⟨rfl, rfl⟩)
      exact not_silent_bind (not_silent_pushBack howner)

theorem silent_changeStatus (h : ¬ SavesFirst s t issue dto target) :
    Silent tables SameRows (changeStatus s c t issue dto target) := by
  apply silent_ofExcept_bind
  intro _ _
  apply silent_ofExcept_bind
  intro justification hjustified
  have hnone : justification = none := by
    unfold statusJustification at hjustified
    dsimp only at hjustified
    split_ifs at hjustified with htarget hreason
    · exact absurd (Or.inl ⟨htarget, hreason⟩) h
    · exact (Except.ok.inj hjustified).symm
  rw [hnone]
  apply (silent_pure ()).bind
  intro _
  apply silent_ofExcept_bind
  intro moved hmoved
  refine Silent.bind ?_ fun _ => silent_select.bind fun db => ?_
  · unfold pushBackIfResumed
    split_ifs with hresumes
    · obtain ⟨sla, rfl⟩ := suspendOrResume_eq s hmoved
      apply silent_pushBack
      by_contra hsome
      exact h (Or.inr ⟨hresumes, Option.isSome_iff_ne_none.mpr hsome, by rw [hmoved]; rfl⟩)
    · exact silent_pure ()
  · exact silent_ofExcept _

/-! ## The save -/

theorem failsQuietly_persistUpdate (plan : UpdatePlan) (actor : Actor) :
    FailsQuietly tables SameRows (persistUpdate s plan actor) := by
  unfold persistUpdate
  cases plan.persist with
  | save => exact .of_not_canFail (not_canFail_ignored (not_canFail_write _))
  | checked => exact failsQuietly_transaction _ _
  | duplicate reason => exact failsQuietly_transaction _ _

/-- Once an update is saved it does not fail. -/
theorem failsQuietly_saveUpdate (plan : UpdatePlan) (actor : Actor) :
    FailsQuietly tables SameRows (saveUpdate s plan actor) := by
  apply (failsQuietly_persistUpdate plan actor).bind_total
  intro _
  apply not_canFail_bind
  · exact not_canFail_whenSome fun status => not_canFail_ignored (not_canFail_write _)
  · intro _
    apply not_canFail_bind
    · exact not_canFail_whenSome fun owner => not_canFail_locked_swallowed _
    · exact fun _ => not_canFail_pure _

theorem failsQuietly_finishUpdate (plan : UpdatePlan) (actor : Actor) :
    FailsQuietly tables SameRows (finishUpdate s plan dto actor) :=
  failsQuietly_ofExcept_bind fun _ _ => failsQuietly_saveUpdate _ actor

/-- The tables after another write to a ticket. -/
def rewritten (t : Ticket) : Db where
  tickets := [{ t with updatedAt := t.updatedAt + 1 }]
  escalations := []
  primaryKey := List.nodup_singleton _
  escalationKey := List.nodup_nil

/-- Another write to the ticket makes the version check fail. -/
theorem canFail_finishUpdate {plan : UpdatePlan} {actor : Actor} (h : plan.persist = .checked) :
    CanFail tables (finishUpdate s plan dto actor) := by
  apply CanFail.bind
  intro content
  apply CanFail.bind_left
  have hstale : ∀ t : Ticket, checkedWrites t t.updatedAt (rewritten t) =
      .error (.conflict "This ticket is no longer editable. Refresh the ticket.") ∨
      checkedWrites t t.updatedAt (rewritten t) = .error (.conflict "This ticket changed. Refresh it before saving.") := by
    intro t
    have hrow : (rewritten t).ticket? t.id = some { t with updatedAt := t.updatedAt + 1 } := by
      simp [rewritten, Db.ticket?]
    unfold checkedWrites
    rw [hrow]
    by_cases hcancelled : t.status = .cancelled
    · left
      simp [orError, check, hcancelled, bind, Except.bind]
    · right
      simp [orError, check, hcancelled, bind, Except.bind]
  unfold persistUpdate
  rw [show (recordTransition s plan content).persist = .checked from h]
  rcases hstale (recordTransition s plan content).ticket with hwork | hwork
  · exact canFail_transaction hwork
  · exact canFail_transaction hwork

/-! ## When a failed update has changed nothing -/

theorem persist_of_ends_changed {plan : UpdatePlan} {trace : List (Db × Db)} (hne : target ≠ .duplicate)
    (hstatus : dto.status = some target) (h : Yields tables (updateStatus s c t issue dto) trace (.ok plan)) :
    plan.persist = .checked := by
  unfold updateStatus at h
  rw [hstatus] at h
  dsimp only at h
  rw [if_neg hne] at h
  rcases yields_bind.mp h with ⟨e, he, -⟩ | ⟨_, _, rest, -, h, -⟩
  · cases he
  · rcases yields_bind.mp h with ⟨e, he, -⟩ | ⟨moved, _, _, -, h, -⟩
    · cases he
    · cases (yields_pure.mp h).2
      rfl

theorem SavesFirst.ne_duplicate (h : SavesFirst s t issue dto target) : target ≠ .duplicate := by
  rcases h with ⟨rfl | rfl, -⟩ | ⟨hresumes, -⟩
  · decide
  · decide
  · rw [resumesWork_eq_true hresumes]
    decide

theorem updateStaff_fails_quietly_iff : FailsQuietly tables SameRows (updateStaff s c issue dto) ↔
    ¬ ∃ t issue' target, editedTicket s c issue dto = .ok (t, issue') ∧ dto.status = some target ∧
      assertStatusChange s c t dto target = .ok () ∧ SavesFirst s t issue' dto target := by
  constructor
  · rintro h ⟨t, issue', target, hedit, hstatus, hassert, hsaves⟩
    have hne := hsaves.ne_duplicate
    unfold updateStaff at h
    rw [hedit] at h
    have hloud : ¬ Silent tables SameRows (updateStatus s c t issue' dto) := by
      unfold updateStatus
      rw [hstatus]
      dsimp only
      rw [hassert, if_neg hne]
      apply not_silent_bind_right (yields_ofExcept.mpr ⟨rfl, rfl⟩)
      exact not_silent_bind (not_silent_changeStatus hsaves)
    refine not_failsQuietly_bind hloud ?_ (h.of_bind (yields_ofExcept.mpr ⟨rfl, rfl⟩))
    exact fun plan trace hplan => canFail_finishUpdate (persist_of_ends_changed hne hstatus hplan)
  · intro h
    apply failsQuietly_ofExcept_bind
    rintro ⟨t, issue'⟩ hedit
    refine FailsQuietly.bind ?_ fun plan => failsQuietly_finishUpdate plan c.actor
    unfold updateStatus
    cases hstatus : dto.status with
    | none => exact silent_pure _
    | some target =>
      dsimp only
      apply silent_ofExcept_bind
      intro _ hassert
      by_cases hdup : target = .duplicate
      · rw [if_pos hdup]
        exact silent_ofExcept _
      · rw [if_neg hdup]
        refine Silent.bind ?_ fun _ => silent_pure _
        apply silent_changeStatus
        exact fun hsaves => h ⟨t, issue', target, hedit, hstatus, hassert, hsaves⟩

theorem updateRead_fails_quietly_iff {db : Db} {id : Nat} {actor : Actor} :
    FailsQuietly tables SameRows (updateRead s db id dto actor) ↔ ¬ WritesEarly s db id dto actor := by
  unfold updateRead WritesEarly
  cases hload : loadUpdated s db id dto actor with
  | error e =>
    refine iff_of_true (failsQuietly_ofExcept_bind fun _ h => by cases h) ?_
    rintro ⟨loaded, _, _, _, hadmitted, -⟩
    rw [hadmitted.loads] at hload
    cases hload
  | ok loaded =>
    change FailsQuietly tables SameRows (if actor.role = .user then _ else _) ↔ _
    split_ifs with hrole
    · refine iff_of_true (failsQuietly_ofExcept_bind fun plan _ => failsQuietly_saveUpdate plan actor) ?_
      rintro ⟨_, _, _, _, hadmitted, -⟩
      exact hadmitted.isStaff hrole
    · rw [updateStaff_fails_quietly_iff]
      apply not_congr
      constructor
      · rintro ⟨t, issue, target, hedit, hstatus, hassert, hsaves⟩
        exact ⟨loaded, t, issue, target, ⟨hload, hrole, hedit, hstatus, hassert⟩, hsaves⟩
      · rintro ⟨loaded', t, issue, target, hadmitted, hsaves⟩
        obtain rfl := Except.ok.inj (hload.symm.trans hadmitted.loads)
        exact ⟨t, issue, target, hadmitted.edits, hadmitted.asks, hadmitted.statusChange, hsaves⟩

end

/-- A ticket in progress. -/
def running : Ticket where
  id := 1
  requesterId := 1
  assignedToId := some 2
  categoryId := some 1
  issueTypeId := some 1
  priority := some .medium
  status := .in_progress
  createdAt := 0
  slaStartedAt := some 0
  slaDeadline := some 14400000

def runningOnly : Db where
  tickets := [running]
  escalations := []
  primaryKey := List.nodup_singleton _
  escalationKey := List.nodup_nil

/-- A pause with a resolution date that is none. -/
def pauseWithBadDate : UpdateTicketDto :=
  { status := some .pause, statusJustification := some "Waiting for parts", resolutionDate := .value none }

end StepByStep

end ComplianceHub.Tickets.Interleaved
