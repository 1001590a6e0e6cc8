import ComplianceHub.Tickets.Types
import Mathlib.Data.List.MinMax
import Mathlib.Data.List.Nodup

/-!
# Reading and writing the tables

* `TicketM` : an operation, which returns or raises an exception and leaves the tables as it has written them;
* `Returns` : an operation that completed, with its result and the tables after it; one rule for each way to
  build an operation (`returns_bind`, `returns_guard`, …), so that a proof takes a completed operation apart;
* `saveTicket`, `updateTicketRow` : TypeORM's `save` and `update` of one row, and what each leaves in the table;
* the counts and queries that several services share.
-/

namespace ComplianceHub.Tickets

open ComplianceHub.Interruption

abbrev TicketM := EStateM HttpException Db

/-! ## Completed operations -/

/-- The operation completed with this result, and left these tables. -/
def Returns {α : Type} (m : TicketM α) (db : Db) (a : α) (db' : Db) : Prop := m.run db = .ok a db'

section Returns

variable {α β : Type} {db db' : Db}

theorem returns_pure (a b : α) : Returns (pure a) db b db' ↔ a = b ∧ db = db' := by
  simp [Returns, pure, EStateM.pure, EStateM.run]

theorem returns_bind (m : TicketM α) (f : α → TicketM β) (b : β) :
    Returns (m >>= f) db b db' ↔ ∃ a db₁, Returns m db a db₁ ∧ Returns (f a) db₁ b db' := by
  simp only [Returns, EStateM.run, bind, EStateM.bind]
  cases m db <;> simp

theorem returns_throw (e : HttpException) (a : α) : ¬ Returns (throw e) db a db' := by
  intro h
  have herror : (EStateM.Result.error e db : EStateM.Result HttpException Db α) = .ok a db' := h
  cases herror

theorem returns_get (a : Db) : Returns get db a db' ↔ db = a ∧ db = db' := by
  change (EStateM.Result.ok db db : EStateM.Result HttpException Db Db) = .ok a db' ↔ _
  rw [EStateM.Result.ok.injEq]

theorem returns_modify (f : Db → Db) (u : Unit) : Returns (modify f) db u db' ↔ db' = f db := by
  change (EStateM.Result.ok () (f db) : EStateM.Result HttpException Db Unit) = .ok u db' ↔ _
  rw [EStateM.Result.ok.injEq, and_iff_right rfl, eq_comm]

/-- Raise the exception when the condition holds. -/
def throwIf (c : Prop) [Decidable c] (e : HttpException) : TicketM Unit := if c then throw e else pure ()

theorem returns_throwIf (c : Prop) [Decidable c] (e : HttpException) (u : Unit) :
    Returns (throwIf c e) db u db' ↔ ¬ c ∧ db = db' := by
  unfold throwIf
  split_ifs with h
  · simp [h, returns_throw]
  · simp [h, returns_pure]

/-- A computation that reads no table. -/
def ofExcept : Except HttpException α → TicketM α
  | .ok a => pure a
  | .error e => throw e

theorem returns_ofExcept (x : Except HttpException α) (a : α) :
    Returns (ofExcept x) db a db' ↔ x = .ok a ∧ db = db' := by
  cases x with
  | error e => simp [ofExcept, returns_throw]
  | ok b => simp [ofExcept, returns_pure]

/-- The row, or the exception when there is none. -/
def orThrow (x : Option α) (e : HttpException) : TicketM α :=
  match x with
  | some a => pure a
  | none => throw e

theorem returns_orThrow (x : Option α) (e : HttpException) (a : α) :
    Returns (orThrow x e) db a db' ↔ x = some a ∧ db = db' := by
  cases x with
  | none => simp [orThrow, returns_throw]
  | some b => simp [orThrow, returns_pure]

/-- An operation on a value that may be absent. -/
def whenSome (x : Option α) (f : α → TicketM Unit) : TicketM Unit :=
  match x with
  | some a => f a
  | none => pure ()

theorem returns_whenSome {x : Option α} {f : α → TicketM Unit} {u : Unit} :
    Returns (whenSome x f) db u db' ↔ (x = none ∧ db = db') ∨ ∃ a, x = some a ∧ Returns (f a) db u db' := by
  cases x with
  | none => simp [whenSome, returns_pure]
  | some a => simp [whenSome]

end Returns

/-! ## Rows -/

/-- An id no row of the list has. -/
def freshId (ids : List Nat) : Nat := ids.foldr max 0 + 1

theorem freshId_not_mem (ids : List Nat) : freshId ids ∉ ids := by
  have h : ∀ i ∈ ids, i ≤ ids.foldr max 0 := by
    induction ids with
    | nil => simp
    | cons a l ih =>
      intro i hi
      rcases List.mem_cons.mp hi with rfl | hi
      · exact le_max_left _ _
      · exact (ih i hi).trans (le_max_right _ _)
  intro hmem
  exact absurd (h _ hmem) (by simp [freshId])

namespace Db

def ticket? (db : Db) (id : Nat) : Option Ticket := db.tickets.find? fun t => t.id = id

theorem id_of_ticket? {db : Db} {id : Nat} {t : Ticket} (h : db.ticket? id = some t) : t.id = id := by
  simpa using List.find?_some h

theorem mem_of_ticket? {db : Db} {id : Nat} {t : Ticket} (h : db.ticket? id = some t) : t ∈ db.tickets :=
  List.mem_of_find?_eq_some h

theorem eq_of_id_eq {db : Db} {t u : Ticket} (ht : t ∈ db.tickets) (hu : u ∈ db.tickets) (h : t.id = u.id) : t = u :=
  List.inj_on_of_nodup_map db.primaryKey ht hu h

/-- The primary key finds each row. -/
theorem ticket?_of_mem {db : Db} {t : Ticket} (h : t ∈ db.tickets) : db.ticket? t.id = some t := by
  cases hf : db.ticket? t.id with
  | none => simpa using List.find?_eq_none.mp hf t h
  | some u => rw [eq_of_id_eq (mem_of_ticket? hf) h (id_of_ticket? hf)]

theorem map_id_setRow (tickets : List Ticket) (t : Ticket) :
    (tickets.map fun row => if row.id = t.id then t else row).map Ticket.id = tickets.map Ticket.id := by
  rw [List.map_map]
  refine List.map_congr_left fun row _ => ?_
  simp only [Function.comp_apply]
  split_ifs with h
  · exact h.symm
  · rfl

/-- The row of a ticket replaced. -/
def setTicket (db : Db) (t : Ticket) : Db :=
  { db with
    tickets := db.tickets.map fun row => if row.id = t.id then t else row
    primaryKey := by rw [map_id_setRow]; exact db.primaryKey }

theorem mem_setTicket {db : Db} {t u : Ticket} (h : u ∈ (db.setTicket t).tickets) :
    u = t ∨ u ∈ db.tickets ∧ u.id ≠ t.id := by
  obtain ⟨row, hrow, rfl⟩ := List.mem_map.mp h
  split_ifs with hid
  · exact .inl rfl
  · exact .inr ⟨hrow, hid⟩

theorem ticket?_setTicket (db : Db) (t : Ticket) (id : Nat) :
    (db.setTicket t).ticket? id = if id = t.id then (db.ticket? id).map fun _ => t else db.ticket? id := by
  simp only [ticket?, setTicket]
  induction db.tickets with
  | nil => simp
  | cons row rest ih =>
    by_cases hrow : row.id = t.id <;> by_cases hid : id = t.id <;> by_cases hr : row.id = id <;>
      simp_all [List.find?_cons, eq_comm]

/-- The id the table gives the next row. -/
def nextId (db : Db) : Nat := freshId (db.tickets.map Ticket.id)

def insertTicket (db : Db) (t : Ticket) : Db :=
  { db with
    tickets := db.tickets ++ [{ t with id := db.nextId }]
    primaryKey := by
      rw [List.map_append]
      exact List.nodup_append'.mpr ⟨db.primaryKey, List.nodup_singleton _,
        by simpa [nextId] using freshId_not_mem (db.tickets.map Ticket.id)⟩ }

theorem mem_insertTicket {db : Db} {t u : Ticket} (h : u ∈ (db.insertTicket t).tickets) :
    u ∈ db.tickets ∨ u = { t with id := db.nextId } := by
  simpa [insertTicket] using h

theorem ticket?_nextId (db : Db) : db.ticket? db.nextId = none := by
  cases h : db.ticket? db.nextId with
  | none => rfl
  | some u =>
    have := List.mem_map_of_mem (f := Ticket.id) (mem_of_ticket? h)
    rw [id_of_ticket? h] at this
    exact absurd this (freshId_not_mem _)

theorem ticket?_insertTicket (db : Db) (t : Ticket) (id : Nat) :
    (db.insertTicket t).ticket? id = if id = db.nextId then some { t with id := db.nextId } else db.ticket? id := by
  have hnone := db.ticket?_nextId
  simp only [ticket?, insertTicket, List.find?_append] at hnone ⊢
  split_ifs with hid
  · subst hid
    rw [hnone]
    simp
  · simp [Ne.symm hid]

/-- Escalations of a ticket, newest first. -/
def escalationsOf (db : Db) (ticketId : Nat) : List TicketEscalation :=
  (db.escalations.filter fun e => e.ticketId = ticketId).reverse

def latestEscalation (db : Db) (ticketId : Nat) : Option TicketEscalation := (db.escalationsOf ticketId).head?

/-- The newest accepted escalation, which `enrichTicketsWithUsers` reads. -/
def acceptedEscalation (db : Db) (ticketId : Nat) : Option TicketEscalation :=
  (db.escalationsOf ticketId).find? fun e => e.status = .accepted

end Db

/-- The row that `save` leaves: the entity, with a fresh version if a column differs. -/
def savedRow (row t : Ticket) : Ticket :=
  if { t with updatedAt := row.updatedAt } = row then row else { t with updatedAt := row.updatedAt + 1 }

theorem savedRow_eq (row t : Ticket) : ∃ version, savedRow row t = { t with updatedAt := version } := by
  unfold savedRow
  split_ifs with h
  · exact ⟨row.updatedAt, h.symm⟩
  · exact ⟨_, rfl⟩

/-- The tables after `repository.save(ticket)`: the loaded entity written over its row. -/
def Db.save (db : Db) (t : Ticket) : Db :=
  match db.ticket? t.id with
  | some row => db.setTicket (savedRow row t)
  | none => db

def saveTicket (t : Ticket) : TicketM Unit := modify fun db => db.save t

theorem returns_saveTicket {db db' : Db} {t : Ticket} (u : Unit) :
    Returns (saveTicket t) db u db' ↔ db' = db.save t := returns_modify _ u

theorem returns_forM_saveTicket {db db' : Db} {tickets : List Ticket} (u : Unit) :
    Returns (tickets.forM saveTicket) db u db' ↔ db' = tickets.foldl Db.save db := by
  induction tickets generalizing db with
  | nil => simp [returns_pure, eq_comm]
  | cons t rest ih =>
    simp only [List.forM_eq_forM, List.forM_cons, returns_bind, returns_saveTicket, List.foldl_cons] at ih ⊢
    exact ⟨fun ⟨_, _, hdb, h⟩ => ih.mp (hdb ▸ h), fun h => ⟨(), _, rfl, ih.mpr h⟩⟩

@[simp] theorem Db.escalations_save (db : Db) (t : Ticket) : (db.save t).escalations = db.escalations := by
  unfold Db.save
  split <;> rfl

@[simp] theorem Db.escalations_saveAll (tickets : List Ticket) (db : Db) :
    (tickets.foldl Db.save db).escalations = db.escalations := by
  induction tickets generalizing db with
  | nil => rfl
  | cons t rest ih => rw [List.foldl_cons, ih, Db.escalations_save]

/-- The row after an UPDATE of some of its columns. -/
def updatedRow (row : Ticket) (f : Ticket → Ticket) : Ticket := { f row with id := row.id, updatedAt := row.updatedAt + 1 }

/-- The tables after `repository.update(id, …)`: some columns of the row written. -/
def Db.update (db : Db) (id : Nat) (f : Ticket → Ticket) : Db :=
  match db.ticket? id with
  | some row => db.setTicket (updatedRow row f)
  | none => db

@[simp] theorem Db.escalations_update (db : Db) (id : Nat) (f : Ticket → Ticket) :
    (db.update id f).escalations = db.escalations := by
  unfold Db.update
  split <;> rfl

def updateTicketRow (id : Nat) (f : Ticket → Ticket) : TicketM Unit := modify fun db => db.update id f

theorem returns_updateTicketRow {db db' : Db} {id : Nat} (f : Ticket → Ticket) (u : Unit) :
    Returns (updateTicketRow id f) db u db' ↔ db' = db.update id f := returns_modify _ u

def Db.logStatus (db : Db) (ticketId : Nat) (fromStatus toStatus : TicketStatus) : Db :=
  { db with statusEvents := db.statusEvents ++ [⟨ticketId, some fromStatus, toStatus⟩] }

@[simp] theorem Db.tickets_logStatus (db : Db) (ticketId : Nat) (fromStatus toStatus : TicketStatus) :
    (db.logStatus ticketId fromStatus toStatus).tickets = db.tickets := rfl

@[simp] theorem Db.escalations_logStatus (db : Db) (ticketId : Nat) (fromStatus toStatus : TicketStatus) :
    (db.logStatus ticketId fromStatus toStatus).escalations = db.escalations := rfl

def logStatusChanged (ticketId : Nat) (fromStatus toStatus : TicketStatus) : TicketM Unit :=
  modify fun db => db.logStatus ticketId fromStatus toStatus

theorem returns_logStatusChanged {db db' : Db} {ticketId : Nat} {fromStatus toStatus : TicketStatus} (u : Unit) :
    Returns (logStatusChanged ticketId fromStatus toStatus) db u db' ↔
      db' = db.logStatus ticketId fromStatus toStatus := returns_modify _ u

/-! ## The rows of two states -/

/-- The same tickets with the same ids, each related to what it was. -/
def Evolves (R : Ticket → Ticket → Prop) (db db' : Db) : Prop :=
  ∀ id, Option.Rel R (db.ticket? id) (db'.ticket? id)

section Evolves

variable {R : Ticket → Ticket → Prop} {db db₁ db₂ : Db}

theorem Evolves.of_tickets_eq (hR : ∀ t, R t t) (h : db₁.tickets = db.tickets) : Evolves R db db₁ := by
  intro id
  rw [show db₁.ticket? id = db.ticket? id by simp [Db.ticket?, h]]
  cases db.ticket? id with
  | none => exact .none
  | some t => exact .some (hR t)

theorem Evolves.refl (hR : ∀ t, R t t) (db : Db) : Evolves R db db := .of_tickets_eq hR rfl

theorem Evolves.setTicket (hR : ∀ t, R t t) {row t : Ticket} (hrow : db.ticket? t.id = some row) (h : R row t) :
    Evolves R db (db.setTicket t) := by
  intro id
  rw [Db.ticket?_setTicket]
  split_ifs with hid
  · rw [hid, hrow]
    exact .some h
  · cases db.ticket? id with
    | none => exact .none
    | some u => exact .some (hR u)

theorem Evolves.save (hR : ∀ t, R t t) {t : Ticket} (h : ∀ row, db.ticket? t.id = some row → R row (savedRow row t)) :
    Evolves R db (db.save t) := by
  unfold Db.save
  split
  case h_1 row hrow =>
    obtain ⟨version, hv⟩ := savedRow_eq row t
    refine Evolves.setTicket hR (?_ : _ = some row) (h row hrow)
    rwa [hv]
  case h_2 => exact .refl hR db

theorem Db.ticket?_save_of_ne {db : Db} {t : Ticket} {id : Nat} (h : t.id ≠ id) :
    (db.save t).ticket? id = db.ticket? id := by
  unfold Db.save
  split
  case h_1 row hrow =>
    obtain ⟨version, hv⟩ := savedRow_eq row t
    rw [Db.ticket?_setTicket, hv, if_neg (Ne.symm h)]
  case h_2 => rfl

theorem Db.ticket?_saveAll_of_not_mem {tickets : List Ticket} {db : Db} {id : Nat} (h : id ∉ tickets.map Ticket.id) :
    (tickets.foldl Db.save db).ticket? id = db.ticket? id := by
  induction tickets generalizing db with
  | nil => rfl
  | cons t rest ih =>
    rw [List.map_cons, List.mem_cons, not_or] at h
    rw [List.foldl_cons, ih h.2, Db.ticket?_save_of_ne (Ne.symm h.1)]

/-- Several tickets saved, each over its own row. -/
theorem Evolves.saveAll (hR : ∀ t, R t t) {tickets : List Ticket} (hnodup : (tickets.map Ticket.id).Nodup)
    (h : ∀ t ∈ tickets, ∀ row, db.ticket? t.id = some row → R row (savedRow row t)) :
    Evolves R db (tickets.foldl Db.save db) := by
  induction tickets generalizing db with
  | nil => exact .refl hR db
  | cons t rest ih =>
    rw [List.map_cons, List.nodup_cons] at hnodup
    have hrest : ∀ u ∈ rest, (db.save t).ticket? u.id = db.ticket? u.id := fun u hu =>
      Db.ticket?_save_of_ne fun heq => hnodup.1 (heq ▸ List.mem_map_of_mem hu)
    have htail : Evolves R (db.save t) (rest.foldl Db.save (db.save t)) :=
      ih hnodup.2 fun u hu row hrow => h u (List.mem_cons_of_mem _ hu) row (hrest u hu ▸ hrow)
    intro id
    by_cases hid : t.id = id
    · have hout : id ∉ rest.map Ticket.id := hid ▸ hnodup.1
      rw [List.foldl_cons, Db.ticket?_saveAll_of_not_mem hout]
      exact Evolves.save hR (fun row hrow => h t List.mem_cons_self row hrow) id
    · have hrel := htail id
      rwa [Db.ticket?_save_of_ne hid] at hrel

theorem Evolves.update (hR : ∀ t, R t t) {id : Nat} {f : Ticket → Ticket}
    (h : ∀ row, db.ticket? id = some row → R row (updatedRow row f)) : Evolves R db (db.update id f) := by
  unfold Db.update
  split
  case h_1 row hrow =>
    refine Evolves.setTicket hR (?_ : _ = some row) (h row hrow)
    rw [show (updatedRow row f).id = row.id from rfl, Db.id_of_ticket? hrow, hrow]
  case h_2 => exact .refl hR db

theorem Evolves.congr {db₂ : Db} (h : Evolves R db db₁) (heq : db₂.tickets = db₁.tickets) : Evolves R db db₂ := by
  intro id
  rw [show db₂.ticket? id = db₁.ticket? id by simp [Db.ticket?, heq]]
  exact h id

/-- The last write of a row counts. -/
theorem Evolves.of_setTicket {row t : Ticket}
    (h : ∀ id, id ≠ t.id → Option.Rel R (db.ticket? id) (db₁.ticket? id)) (hsome : (db₁.ticket? t.id).isSome)
    (hrow : db.ticket? t.id = some row) (hR : R row t) : Evolves R db (db₁.setTicket t) := by
  intro id
  rw [Db.ticket?_setTicket]
  split_ifs with hid
  · obtain ⟨b, hb⟩ := Option.isSome_iff_exists.mp hsome
    rw [hid, hrow, hb]
    exact .some hR
  · exact h id hid

/-- One more row written, after the others. -/
theorem Evolves.setTicket_after (h : Evolves R db db₁) {row t : Ticket} (hrow : db.ticket? t.id = some row) (hR : R row t) :
    Evolves R db (db₁.setTicket t) := by
  refine .of_setTicket (fun id _ => h id) ?_ hrow hR
  have r := h t.id
  rw [hrow] at r
  cases hb : db₁.ticket? t.id with
  | none => simp [hb] at r
  | some b => rfl

theorem Evolves.save_after (h : Evolves R db db₁) {row t : Ticket} (hrow : db.ticket? t.id = some row)
    (hsame : db₁.ticket? t.id = some row) (hR : R row (savedRow row t)) : Evolves R db (db₁.save t) := by
  obtain ⟨version, hv⟩ := savedRow_eq row t
  rw [Db.save, hsame]
  refine h.setTicket_after ?_ hR
  rwa [hv]

theorem Evolves.exists_of_mem (h : Evolves R db db₁) {t : Ticket} (ht : t ∈ db₁.tickets) :
    ∃ row ∈ db.tickets, row.id = t.id ∧ R row t := by
  have r := h t.id
  rw [Db.ticket?_of_mem ht] at r
  cases hrow : db.ticket? t.id with
  | none => simp [hrow] at r
  | some row => exact ⟨row, Db.mem_of_ticket? hrow, Db.id_of_ticket? hrow, by simpa [hrow] using r⟩

end Evolves

/-! ## Counts and queries -/

namespace Db

variable (db : Db)

def count (p : Ticket → Bool) : Nat := db.tickets.countP p

/-- `order: { createdAt: 'ASC' }` and the first row. -/
def oldest (p : Ticket → Bool) : Option Ticket := (db.tickets.filter p).argmin Ticket.createdAt

variable {db} {p : Ticket → Bool}

theorem mem_of_oldest {t : Ticket} (h : db.oldest p = some t) : t ∈ db.tickets ∧ p t = true :=
  List.mem_filter.mp (List.argmin_mem h)

theorem oldest_eq_none : db.oldest p = none ↔ ∀ t ∈ db.tickets, p t = false := by
  simp [oldest, List.argmin_eq_none, List.filter_eq_nil_iff]

theorem count_eq_zero : db.count p = 0 ↔ ∀ t ∈ db.tickets, p t = false := by
  simp [count, List.countP_eq_zero]

end Db

/-- The tables without one ticket. -/
def Db.others (db : Db) (id : Nat) : Db :=
  { db with
    tickets := db.tickets.filter fun t => t.id ≠ id
    primaryKey := (List.filter_sublist.map _).nodup db.primaryKey }

section others

variable {db db₁ : Db} {id : Nat} {p : Ticket → Bool}

theorem Db.oldest_congr (h : db₁.tickets = db.tickets) (p : Ticket → Bool) : db₁.oldest p = db.oldest p := by
  rw [oldest, oldest, h]

theorem Db.count_congr (h : db₁.tickets = db.tickets) (p : Ticket → Bool) : db₁.count p = db.count p := by
  rw [count, count, h]

theorem Db.others_congr (h : db₁.tickets = db.tickets) (id : Nat) : (db₁.others id).tickets = (db.others id).tickets :=
  congrArg (List.filter fun t : Ticket => t.id ≠ id) h

theorem Db.ticket?_of_mem_others {t : Ticket} (h : t ∈ (db.others id).tickets) : db.ticket? t.id = some t :=
  ticket?_of_mem (List.mem_filter.mp h).1

theorem Db.filter_others (h : ∀ t ∈ db.tickets, t.id = id → p t = false) :
    (db.others id).tickets.filter p = db.tickets.filter p := by
  rw [others, List.filter_filter]
  refine List.filter_congr fun t ht => ?_
  by_cases hid : t.id = id
  · simp [hid, h t ht hid]
  · simp [hid]

/-- A query that does not match the ticket does not see it. -/
theorem Db.oldest_others (h : ∀ t ∈ db.tickets, t.id = id → p t = false) : (db.others id).oldest p = db.oldest p := by
  rw [oldest, oldest, filter_others h]

theorem Db.count_others (h : ∀ t ∈ db.tickets, t.id = id → p t = false) : (db.others id).count p = db.count p := by
  rw [count, count, List.countP_eq_length_filter, List.countP_eq_length_filter, filter_others h]

theorem Db.others_setTicket (db : Db) (t : Ticket) : (db.setTicket t).others t.id = db.others t.id := by
  have h : (db.setTicket t).tickets.filter (fun u => u.id ≠ t.id) = db.tickets.filter fun u => u.id ≠ t.id := by
    rw [setTicket, List.filter_map]
    refine (List.map_congr_left fun u hu => ?_).trans ((List.map_id _).trans (List.filter_congr fun u _ => ?_))
    · have hid := (List.mem_filter.mp hu).2
      by_cases hu' : u.id = t.id
      · simp [hu'] at hid
      · simp [hu']
    · by_cases hu' : u.id = t.id <;> simp [hu']
  simp only [others, h]
  rfl

theorem Db.others_save (db : Db) (t : Ticket) : (db.save t).others t.id = db.others t.id := by
  unfold save
  split
  case h_1 row hrow =>
    obtain ⟨version, hv⟩ := savedRow_eq row t
    rw [hv]
    exact others_setTicket db { t with updatedAt := version }
  case h_2 => rfl

theorem Db.others_update (db : Db) (id : Nat) (f : Ticket → Ticket) : (db.update id f).others id = db.others id := by
  unfold update
  split
  case h_1 row hrow =>
    have h := others_setTicket db (updatedRow row f)
    rwa [show (updatedRow row f).id = row.id from rfl, id_of_ticket? hrow] at h
  case h_2 => rfl

end others

/-- Open, Assigned or In Progress: what can be cancelled, marked as a duplicate, and set going by an assignment. -/
def isLiveStatus (s : TicketStatus) : Bool := s = .open || s = .assigned || s = .in_progress

/-- Assigned, In Progress or Pause: the work that makes a staff member busy. -/
def isBusyStatus (s : TicketStatus) : Bool := s = .assigned || s = .in_progress || s = .pause

def countsAsBusy (techId : Nat) (t : Ticket) : Bool := t.assignedToId = some techId && isBusyStatus t.status

/-- Work in hand: In Progress, or Assigned or Pause outside the waiting list. -/
def isActiveTicket (t : Ticket) : Bool :=
  t.status = .in_progress || ((t.status = .assigned || t.status = .pause) && !t.isSlaWaiting)

def busyCount (db : Db) (techId : Nat) : Nat := db.count (countsAsBusy techId)

def remainingActiveCount (db : Db) (techId : Nat) : Nat :=
  db.count fun t => t.assignedToId = some techId && isActiveTicket t

end ComplianceHub.Tickets
