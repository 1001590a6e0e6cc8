import ComplianceHub.Tickets.Interleaved

/-!
# The discipline of duplicate links

* `LinkForest` : every duplicate link points to an older ticket that is neither a duplicate nor linked itself;
* `LinkStep` : what the transactions of the services do to links. Only `persistDuplicateTicket` makes one, on two rows
  it holds, of which one is nobody's original (`Marks`);
* `links` : the discipline of the services. Saves of loaded entities are admitted where they bring back no link;
* `Safe` : an operation that keeps to it, with one rule for each way to build an operation, and one for each kind of
  write (`Safe.save`, `Safe.updateRow`, `Safe.unlinked`, …).
-/

namespace ComplianceHub.Tickets.Interleaved

open ComplianceHub.Lib ComplianceHub.Sla Relation

def LinkForest (db : Db) : Prop :=
  ∀ t ∈ db.tickets, ∀ originalId, t.duplicateOfId = some originalId →
    ∃ original, db.ticket? originalId = some original ∧ originalId ≠ t.id ∧ original.createdAt < t.createdAt ∧
      original.status ≠ .duplicate ∧ original.duplicateOfId = none

/-- A row rewritten without a new link; a write gives it a fresh version. -/
structure KeepsLink (row t : Ticket) : Prop where
  createdAt : t.createdAt = row.createdAt
  version : row.updatedAt < t.updatedAt ∨ t = row
  duplicateOfId : t.duplicateOfId = none ∨ t.duplicateOfId = row.duplicateOfId
  status : t.status = .duplicate → row.status = .duplicate

theorem KeepsLink.refl (t : Ticket) : KeepsLink t t := ⟨rfl, .inr rfl, .inr rfl, id⟩

/-- The original and the source of a duplicate, on locked rows. -/
structure Marks (db : Db) (source original : Ticket) : Prop where
  sourceRow : db.ticket? source.id = some source
  originalRow : db.ticket? original.id = some original
  ne : original.id ≠ source.id
  createdAt : original.createdAt < source.createdAt
  status : original.status ≠ .duplicate
  duplicateOfId : original.duplicateOfId = none
  /-- The source is nobody's original. -/
  free : ∀ t ∈ db.tickets, t.duplicateOfId ≠ some source.id

/-- What a transaction does to links. -/
inductive LinkStep (writes : List Write) (db db' : Db) : Prop where
  | keeps : Evolves KeepsLink db db' → LinkStep writes db db'
  | files {t : Ticket} : t.duplicateOfId = none → db'.tickets = (db.insertTicket t).tickets → LinkStep writes db db'
  | marks {source original : Ticket} : Marks db source original → .markDuplicate source.id original.id ∈ writes →
      db'.tickets = (db.setTicket (updatedRow source (duplicateRow original.id))).tickets → LinkStep writes db db'

section
variable {writes : List Write} {db db₁ db' : Db} {t : Ticket}

theorem ticket?_congr (h : db'.tickets = db.tickets) (id : Nat) : db'.ticket? id = db.ticket? id := by
  rw [Db.ticket?, Db.ticket?, h]

/-- No transaction of the services makes a chain. -/
theorem LinkForest.step (h : LinkForest db) (hs : LinkStep writes db db') : LinkForest db' := by
  intro t ht originalId hlink
  cases hs with
  | keeps hkeeps =>
    obtain ⟨row, hrow, hid, hkeep⟩ := hkeeps.exists_of_mem ht
    have hsame : row.duplicateOfId = some originalId := by
      rcases hkeep.duplicateOfId with hnone | hsame
      · rw [hnone] at hlink
        cases hlink
      · rw [← hsame, hlink]
    obtain ⟨original, horiginal, hne, hcreated, hstatus, hnone⟩ := h row hrow originalId hsame
    have hrel := hkeeps originalId
    rw [horiginal] at hrel
    cases horiginal' : db'.ticket? originalId with
    | none => simp [horiginal'] at hrel
    | some original' =>
      have hkeep' : KeepsLink original original' := by simpa [horiginal'] using hrel
      refine ⟨original', rfl, hid ▸ hne, ?_, fun hdup => hstatus (hkeep'.status hdup), ?_⟩
      · rw [hkeep'.createdAt, hkeep.createdAt]
        exact hcreated
      · rcases hkeep'.duplicateOfId with h | h
        · exact h
        · rw [h, hnone]
  | @files new hnew htickets =>
    rw [htickets] at ht
    rcases Db.mem_insertTicket ht with ht | rfl
    · obtain ⟨original, horiginal, hrest⟩ := h t ht originalId hlink
      refine ⟨original, ?_, hrest⟩
      rw [ticket?_congr htickets, Db.ticket?_insertTicket, if_neg]
      · exact horiginal
      · rintro rfl
        rw [Db.ticket?_nextId] at horiginal
        cases horiginal
    · rw [show ({ new with id := db.nextId } : Ticket).duplicateOfId = none from hnew] at hlink
      cases hlink
  | @marks source original hmarks _ htickets =>
    rw [htickets] at ht
    have hkept : ∀ id row, id ≠ source.id → db.ticket? id = some row → db'.ticket? id = some row := by
      intro id row hid hrow
      rw [ticket?_congr htickets, Db.ticket?_setTicket]
      exact (if_neg hid).trans hrow
    rcases Db.mem_setTicket ht with rfl | ⟨ht, -⟩
    · cases hlink
      exact ⟨original, hkept _ _ hmarks.ne hmarks.originalRow, hmarks.ne, hmarks.createdAt, hmarks.status, hmarks.duplicateOfId⟩
    · obtain ⟨found, hfound, hrest⟩ := h t ht originalId hlink
      refine ⟨found, hkept _ _ ?_ hfound, hrest⟩
      rintro rfl
      exact hmarks.free t ht hlink

/-! ## Rows that persist -/

/-- The rows of a state are still there; one with the same version is unchanged. -/
def Later (db db' : Db) : Prop :=
  ∀ id row, db.ticket? id = some row →
    ∃ row', db'.ticket? id = some row' ∧ row'.createdAt = row.createdAt ∧ (row.updatedAt < row'.updatedAt ∨ row' = row)

theorem Later.refl (db : Db) : Later db db := fun _ row h => ⟨row, h, rfl, .inr rfl⟩

theorem Later.trans (h : Later db db₁) (h' : Later db₁ db') : Later db db' := by
  intro id row hrow
  obtain ⟨row₁, hrow₁, hcreated, hversion⟩ := h id row hrow
  obtain ⟨row', hrow', hcreated', hversion'⟩ := h' id row₁ hrow₁
  refine ⟨row', hrow', hcreated'.trans hcreated, ?_⟩
  rcases hversion with hversion | rfl
  · rcases hversion' with hversion' | rfl
    · exact .inl (hversion.trans hversion')
    · exact .inl hversion
  · exact hversion'

theorem LinkStep.later (h : LinkStep writes db db') : Later db db' := by
  intro id row hrow
  cases h with
  | keeps hkeeps =>
    have hrel := hkeeps id
    rw [hrow] at hrel
    cases hrow' : db'.ticket? id with
    | none => simp [hrow'] at hrel
    | some row' =>
      have hkeep : KeepsLink row row' := by simpa [hrow'] using hrel
      exact ⟨row', rfl, hkeep.createdAt, hkeep.version⟩
  | files _ htickets =>
    refine ⟨row, ?_, rfl, .inr rfl⟩
    rw [ticket?_congr htickets, Db.ticket?_insertTicket, if_neg]
    · exact hrow
    · rintro rfl
      rw [Db.ticket?_nextId] at hrow
      cases hrow
  | @marks source original hmarks _ htickets =>
    rw [ticket?_congr htickets, Db.ticket?_setTicket]
    split_ifs with hid
    · rw [hid, show (updatedRow source (duplicateRow original.id)).id = source.id from rfl, hmarks.sourceRow,
        Option.some.injEq] at hrow
      subst hrow
      rw [hid, show (updatedRow source (duplicateRow original.id)).id = source.id from rfl, hmarks.sourceRow]
      exact ⟨_, rfl, rfl, .inl (Nat.lt_succ_self _)⟩
    · exact ⟨row, hrow, rfl, .inr rfl⟩

/-! ## The discipline -/

/-- A save that brings back neither a link nor the status Duplicate. -/
def RestoresNoLink (db : Db) (t : Ticket) : Prop :=
  ∀ row, db.ticket? t.id = some row →
    (t.duplicateOfId = none ∨ t.duplicateOfId = row.duplicateOfId) ∧ (t.status = .duplicate → row.status = .duplicate)

def links : Store.Discipline Lock Write Db where
  admitted writes held db := ∀ t, .save t ∈ writes → .row t.id ∉ held → RestoresNoLink db t
  allowed writes db := LinkStep writes db (tables.applyAll db writes)

instance (db : Db) (t : Ticket) : Decidable (RestoresNoLink db t) :=
  decidable_of_iff (∀ row ∈ db.ticket? t.id,
    (t.duplicateOfId = none ∨ t.duplicateOfId = row.duplicateOfId) ∧ (t.status = .duplicate → row.status = .duplicate)) .rfl

/-- The entity that a statement saves. -/
def Write.saved : Write → Option Ticket
  | save t => some t
  | _ => none

instance (writes : List Write) (held : List Lock) (db : Db) : Decidable (links.admitted writes held db) :=
  decidable_of_iff (∀ t ∈ writes.filterMap Write.saved, .row t.id ∉ held → RestoresNoLink db t) <| by
    have hsaved : ∀ t, t ∈ writes.filterMap Write.saved ↔ .save t ∈ writes := by
      intro t
      rw [List.mem_filterMap]
      constructor
      · rintro ⟨w, hw, h⟩
        cases w <;> simp only [Write.saved, reduceCtorEq, Option.some.injEq] at h
        exact h ▸ hw
      · exact fun h => ⟨_, h, rfl⟩
    exact forall_congr' fun t => by rw [hsaved]

abbrev MeanwhileHolding (held : List Lock) (db db' : Db) : Prop := Meanwhile tables links held db db'

theorem Write.ticket?_apply {w : Write} {id : Nat} {row : Ticket} (hrow : db.ticket? id = some row) (h : id ∉ w.rows) :
    (w.apply db).ticket? id = some row := by
  have hupdate : ∀ other f, id ≠ other → (db.update other f).ticket? id = some row := by
    intro other f hne
    unfold Db.update
    split
    · rename_i found hfound
      rw [Db.ticket?_setTicket, if_neg]
      · exact hrow
      · rw [show (updatedRow found f).id = found.id from rfl, Db.id_of_ticket? hfound]
        exact hne
    · exact hrow
  cases w with
  | insertTicket t =>
    change (db.insertTicket t).ticket? id = _
    rw [Db.ticket?_insertTicket, if_neg]
    · exact hrow
    · rintro rfl
      rw [Db.ticket?_nextId] at hrow
      cases hrow
  | save t => exact (Db.ticket?_save_of_ne (Ne.symm (by simpa [Write.rows] using h))).trans hrow
  | update other f => exact hupdate other f (by simpa [Write.rows] using h)
  | markDuplicate sourceId originalId =>
    simp only [Write.rows, List.mem_cons, not_or] at h
    exact hupdate sourceId _ h.1
  | promote waiting promoted =>
    change (if _ then db.update waiting.id promoted else db).ticket? id = _
    split_ifs
    · exact hupdate waiting.id promoted (by simpa [Write.rows] using h)
    · exact hrow
  | insertEscalation e => exact hrow
  | setEscalation e => exact hrow
  | cancelEscalations ticketId => exact hrow
  | logStatus ticketId fromStatus toStatus => exact hrow
  | justify justification => exact hrow

theorem ticket?_applyAll {id : Nat} {row : Ticket} (hrow : db.ticket? id = some row) (h : ∀ w ∈ writes, id ∉ w.rows) :
    (tables.applyAll db writes).ticket? id = some row := by
  induction writes generalizing db with
  | nil => exact hrow
  | cons w rest ih =>
    refine ih (Write.ticket?_apply hrow (h w List.mem_cons_self)) fun w' hw' => ?_
    exact h w' (List.mem_cons_of_mem _ hw')

/-! ### Writes that keep the links -/

/-- An entity that was loaded from one of the rows. -/
def Stems (db : Db) (t : Ticket) : Prop := ∃ row, db.ticket? t.id = some row ∧ t.createdAt = row.createdAt

theorem Stems.of_mem (h : t ∈ db.tickets) : Stems db t := ⟨t, Db.ticket?_of_mem h, rfl⟩

theorem Stems.later (h : Stems db t) (hlater : Later db db') : Stems db' t := by
  obtain ⟨row, hrow, hcreated⟩ := h
  obtain ⟨row', hrow', hcreated', -⟩ := hlater t.id row hrow
  exact ⟨row', hrow', hcreated.trans hcreated'.symm⟩

/-- Columns written without a new link. -/
structure LeavesLink (f : Ticket → Ticket) : Prop where
  createdAt : ∀ row, (f row).createdAt = row.createdAt
  duplicateOfId : ∀ row, (f row).duplicateOfId = row.duplicateOfId
  status : ∀ row, (f row).status = .duplicate → row.status = .duplicate

theorem LeavesLink.keepsLink {f : Ticket → Ticket} (h : LeavesLink f) (row : Ticket) : KeepsLink row (updatedRow row f) where
  createdAt := h.createdAt row
  version := .inl (Nat.lt_succ_self _)
  duplicateOfId := .inr (h.duplicateOfId row)
  status := h.status row

theorem keepsLink_savedRow {row : Ticket} (hcreated : t.createdAt = row.createdAt)
    (hlink : t.duplicateOfId = none ∨ t.duplicateOfId = row.duplicateOfId)
    (hstatus : t.status = .duplicate → row.status = .duplicate) : KeepsLink row (savedRow row t) := by
  unfold savedRow
  split_ifs
  · exact .refl row
  · exact ⟨hcreated, .inl (Nat.lt_succ_self _), hlink, hstatus⟩

theorem Stems.keepsLink (h : Stems db t) (hr : RestoresNoLink db t) {row : Ticket} (hrow : db.ticket? t.id = some row) :
    KeepsLink row (savedRow row t) := by
  obtain ⟨stem, hstem, hcreated⟩ := h
  rw [hrow, Option.some.injEq] at hstem
  subst hstem
  exact keepsLink_savedRow hcreated (hr row hrow).1 (hr row hrow).2

theorem linkStep_save (h : ∀ row, db.ticket? t.id = some row → KeepsLink row (savedRow row t)) :
    LinkStep [.save t] db (tables.applyAll db [.save t]) := .keeps (.save .refl h)

theorem linkStep_update {id : Nat} {f : Ticket → Ticket} {rest : List Write} (hf : LeavesLink f)
    (hrest : (tables.applyAll (db.update id f) rest).tickets = (db.update id f).tickets) :
    LinkStep (.update id f :: rest) db (tables.applyAll db (.update id f :: rest)) :=
  .keeps ((Evolves.update .refl fun row _ => hf.keepsLink row).congr hrest)

/-! ### What the others leave alone -/

section
variable {held : List Lock}

theorem MeanwhileHolding.later (h : MeanwhileHolding held db db') : Later db db' := by
  induction h with
  | refl => exact .refl db
  | tail _ hstep ih =>
    obtain ⟨writes, hallowed, -, rfl⟩ := hstep
    exact ih.trans (LinkStep.later hallowed)

/-- A locked row stays. -/
theorem MeanwhileHolding.row {id : Nat} {row : Ticket} (h : MeanwhileHolding held db db') (hheld : .row id ∈ held)
    (hrow : db.ticket? id = some row) : db'.ticket? id = some row := by
  induction h with
  | refl => exact hrow
  | tail _ hstep ih =>
    obtain ⟨writes, -, hfree, rfl⟩ := hstep
    refine ticket?_applyAll ih fun w hw hid => ?_
    exact hfree w hw (.row id) (List.mem_map_of_mem hid) hheld

/-- Nobody makes a link to a locked ticket: whoever does holds the row of the original. -/
theorem MeanwhileHolding.free {id : Nat} (h : MeanwhileHolding held db db') (hheld : .row id ∈ held)
    (hfree : ∀ t ∈ db.tickets, t.duplicateOfId ≠ some id) : ∀ t ∈ db'.tickets, t.duplicateOfId ≠ some id := by
  induction h with
  | refl => exact hfree
  | tail _ hstep ih =>
    obtain ⟨writes, hallowed, hothers, rfl⟩ := hstep
    intro t ht hlink
    cases (show LinkStep writes _ _ from hallowed) with
    | keeps hkeeps =>
      obtain ⟨row, hrow, -, hkeep⟩ := hkeeps.exists_of_mem ht
      rcases hkeep.duplicateOfId with hnone | hsame
      · rw [hnone] at hlink
        cases hlink
      · exact ih row hrow (hsame ▸ hlink)
    | @files new hnew htickets =>
      rw [htickets] at ht
      rcases Db.mem_insertTicket ht with ht | rfl
      · exact ih t ht hlink
      · rw [show ({ new with id := _ } : Ticket).duplicateOfId = none from hnew] at hlink
        cases hlink
    | @marks source original _ hmark htickets =>
      rw [htickets] at ht
      rcases Db.mem_setTicket ht with rfl | ⟨ht, -⟩
      · cases hlink
        refine hothers _ hmark (.row original.id) (List.mem_map_of_mem ?_) hheld
        exact List.mem_cons_of_mem _ List.mem_cons_self
      · exact ih t ht hlink

end

end

/-! ## Operations that keep to it -/

section
variable {α β : Type} {db : Db} {m : AccessM α} {Q : α → Db → Prop}

/-- Whatever others do between its accesses, the writes of the operation are allowed, it gives back the rows it has
locked, and it ends in `Q`. -/
def Safe (m : AccessM α) (db : Db) (Q : α → Db → Prop) : Prop :=
  ∀ held : List Lock, (∀ id, .row id ∉ held) → m.run.Safe tables links held db fun r held' db' =>
    (∀ id, .row id ∉ held') ∧ Later db db' ∧ ∀ a, r = .ok a → Q a db'

/-- A safe operation whose result does not matter. -/
abbrev Runs (m : AccessM α) (db : Db) : Prop := Safe m db fun _ _ => True

namespace Safe

theorem pure {a : α} (h : Q a db) : Safe (pure a) db Q := by
  intro held hheld
  refine ⟨hheld, .refl db, fun b hb => ?_⟩
  cases hb
  exact h

theorem throw (e : HttpException) : Safe (throw e : AccessM α) db Q := by
  intro held hheld
  refine ⟨hheld, .refl db, fun b hb => ?_⟩
  cases hb

theorem bind {f : α → AccessM β} {R : β → Db → Prop} (h : Safe m db Q)
    (hf : ∀ a db', Later db db' → Q a db' → Safe (f a) db' R) : Safe (m >>= f) db R := by
  intro held hheld
  refine Program.Safe.bind ((h held hheld).mono ?_)
  rintro (e | a) held' db' ⟨hrows, hlater, hres⟩
  · exact ⟨hrows, hlater, fun b hb => by cases hb⟩
  · refine (hf a db' hlater (hres a rfl) held' hrows).mono ?_
    rintro r held₂ db₂ ⟨hrows₂, hlater₂, hres₂⟩
    exact ⟨hrows₂, hlater.trans hlater₂, hres₂⟩

theorem ofExcept {x : Except HttpException α} (h : ∀ a, x = .ok a → Q a db) : Safe (ofExcept x) db Q :=
  fun _ hheld => ⟨hheld, .refl db, h⟩

theorem ite {c : Prop} [Decidable c] {m' : AccessM α} (h : c → Safe m db Q) (h' : ¬ c → Safe m' db Q) :
    Safe (if c then m else m') db Q := by
  split_ifs with hc
  · exact h hc
  · exact h' hc

theorem whenSome {x : Option α} {f : α → AccessM Unit} (h : ∀ a, x = some a → Runs (f a) db) :
    Runs (whenSome x f) db := by
  cases x with
  | none => exact .pure trivial
  | some a => exact h a rfl

theorem ignored (h : Runs m db) : Runs (ignored m) db := h.bind fun _ _ _ _ => .pure trivial

theorem swallowed {m : AccessM Unit} (h : Runs m db) : Runs (swallowed m) db := by
  intro held hheld
  refine Program.Safe.bind ((h held hheld).mono ?_)
  rintro r held' db' ⟨hrows, hlater, -⟩
  exact ⟨hrows, hlater, fun _ _ => trivial⟩

/-- The tables as they are read. -/
theorem select : Safe select db fun found db' => found = db' := by
  intro held hheld db' hdb _
  refine ⟨.keeps (.refl .refl db'), ?_, MeanwhileHolding.later hdb, fun a ha => ?_⟩
  · simpa using hheld
  · cases ha
    rfl

theorem write {writes : List Write}
    (h : ∀ db', Later db db' → (∀ t, .save t ∈ writes → RestoresNoLink db' t) →
      LinkStep writes db' (tables.applyAll db' writes)) : Runs (write writes) db := by
  intro held hheld db' hdb hadmitted
  have hstep := h db' (MeanwhileHolding.later hdb) fun t ht => hadmitted t ht (hheld t.id)
  refine ⟨hstep, ?_, (MeanwhileHolding.later hdb).trans hstep.later, fun _ _ => trivial⟩
  simpa using hheld

/-! A step that reads no table leaves the rest of the operation where it is. -/

section
variable {f : α → AccessM β} {R : β → Db → Prop}

theorem select_bind {f : Db → AccessM β} (h : ∀ db', Later db db' → Safe (f db') db' R) :
    Safe (Interleaved.select >>= f) db R := by
  apply Safe.select.bind
  rintro found db' hlater rfl
  exact h found hlater

theorem ofExcept_bind {x : Except HttpException α} (h : ∀ a, x = .ok a → Safe (f a) db R) :
    Safe (Interleaved.ofExcept x >>= f) db R := by
  cases x with
  | error e => exact .throw e
  | ok a => exact h a rfl

theorem orThrow_bind {x : Option α} {e : HttpException} (h : ∀ a, x = some a → Safe (f a) db R) :
    Safe (Interleaved.orThrow x e >>= f) db R := by
  cases x with
  | none => exact .throw e
  | some a => exact h a rfl

theorem throwIf_bind {c : Prop} [Decidable c] {e : HttpException} {f : Unit → AccessM β} (h : Safe (f ()) db R) :
    Safe (Interleaved.throwIf c e >>= f) db R := by
  unfold Interleaved.throwIf
  split_ifs
  · exact .throw e
  · exact h

end

theorem saveAll {tickets : List Ticket} (hnodup : (tickets.map Ticket.id).Nodup) (h : ∀ t ∈ tickets, Stems db t) :
    Runs (Interleaved.write (tickets.map .save)) db := by
  apply Safe.write
  intro db' hlater hadmitted
  rw [applyAll_save]
  refine .keeps (.saveAll .refl hnodup fun t ht row hrow => ?_)
  exact ((h t ht).later hlater).keepsLink (hadmitted t (List.mem_map_of_mem ht)) hrow

theorem save {t : Ticket} (h : Stems db t) : Runs (Interleaved.write [.save t]) db := by
  have hall : ∀ u ∈ [t], Stems db u := by
    intro u hu
    rw [List.mem_singleton] at hu
    exact hu ▸ h
  have hnodup : ([t].map Ticket.id).Nodup := List.nodup_singleton t.id
  have hruns := saveAll hnodup hall
  exact hruns

theorem updateRow {id : Nat} {f : Ticket → Ticket} (hf : LeavesLink f) : Runs (Interleaved.write [.update id f]) db :=
  .write fun _ _ _ => linkStep_update hf rfl

/-- Writes to the other tables. -/
theorem unlinked {writes : List Write} (h : ∀ db, (tables.applyAll db writes).tickets = db.tickets) :
    Runs (Interleaved.write writes) db :=
  .write fun db' _ _ => .keeps (.of_tickets_eq .refl (h db'))

theorem insertTicket {t : Ticket} (h : t.duplicateOfId = none) : Runs (Interleaved.write [.insertTicket t]) db :=
  .write fun _ _ _ => .files h rfl

theorem promote {waiting : Ticket} {f : Ticket → Ticket} (hf : LeavesLink f) :
    Runs (Interleaved.write [.promote waiting f]) db := by
  apply Safe.write
  intro db' _ _
  change LinkStep _ db' (if _ then db'.update waiting.id f else db')
  split_ifs
  · exact .keeps (.update .refl fun row _ => hf.keepsLink row)
  · exact .keeps (.refl .refl db')

theorem withAutoAssignmentLock (h : ∀ db', Later db db' → Runs m db') : Runs (withAutoAssignmentLock m) db := by
  intro held hheld db' hdb
  have hlock : ∀ id, Lock.row id ∉ Lock.autoAssignment :: held := by simpa using hheld
  refine Program.Safe.bind ((h db' (MeanwhileHolding.later hdb) _ hlock).mono ?_)
  rintro r held₂ db₂ ⟨hrows, hlater, -⟩ db₃ hdb₃ -
  refine ⟨.keeps (.refl .refl db₃), ?_, ((MeanwhileHolding.later hdb).trans hlater).trans (MeanwhileHolding.later hdb₃), fun _ _ => trivial⟩
  intro id hid
  exact hrows id (List.mem_of_mem_filter hid)

/-- A transaction whose writes are allowed as long as its rows stay locked. -/
theorem transaction {rows : List Nat} {work : Db → Except HttpException (List Write × α)}
    (h : ∀ db₁ db₂ held writes a, Later db db₁ → work db₁ = .ok (writes, a) → (∀ id ∈ rows, .row id ∈ held) →
      MeanwhileHolding held db₁ db₂ → LinkStep writes db₂ (tables.applyAll db₂ writes)) :
    Runs (transaction rows work) db := by
  intro held hheld
  -- the rows are locked one after the other; `todo` are still to be locked
  have hlock : ∀ (todo : List Nat) (held₁ : List Lock) (db₁ : Db), (∀ id ∈ todo, id ∈ rows) →
      (∀ id, .row id ∈ held₁ → id ∈ rows) → (∀ id ∈ rows, id ∈ todo ∨ .row id ∈ held₁) → Later db db₁ →
      (todo.foldr (fun id rest => .lock (.row id) fun _ => rest) (lockedWork rows work)).Safe tables links held₁ db₁
        fun r held' db' => (∀ id, .row id ∉ held') ∧ Later db db' ∧ ∀ a, r = .ok a → True := by
    intro todo
    induction todo with
    | nil =>
      intro held₁ db₁ _ hrows hall hlater db₂ hdb₂ _
      have hlater₂ := hlater.trans (MeanwhileHolding.later hdb₂)
      have hreleased : ∀ id, .row id ∉ (held₁.filter fun k => k ∉ ([] : List Lock)).filter fun k => k ∉ rows.map .row := by
        intro id hid
        obtain ⟨hid, hout⟩ := List.mem_filter.mp hid
        have hmem := List.mem_map_of_mem (f := Lock.row) (hrows id (List.mem_of_mem_filter hid))
        simp [hmem] at hout
      have hheld₁ : ∀ id ∈ rows, .row id ∈ held₁.filter fun k => k ∉ ([] : List Lock) := by
        intro id hid
        simpa using (hall id hid).resolve_left List.not_mem_nil
      refine ⟨.keeps (.refl .refl db₂), ?_⟩
      dsimp only [Store.applyAll, List.foldl_nil]
      cases hwork : work db₂ with
      | ok result =>
        obtain ⟨writes, a⟩ := result
        intro db₃ hdb₃ _
        have hstep := h db₂ db₃ _ writes a hlater₂ hwork hheld₁ hdb₃
        exact ⟨hstep, hreleased, (hlater₂.trans (MeanwhileHolding.later hdb₃)).trans hstep.later, fun _ _ => trivial⟩
      | error e =>
        intro db₃ hdb₃ _
        exact ⟨.keeps (.refl .refl db₃), hreleased, hlater₂.trans (MeanwhileHolding.later hdb₃), fun _ _ => trivial⟩
    | cons id todo ih =>
      intro held₁ db₁ hsub hrows hall hlater db₂ hdb₂
      refine ih _ db₂ (fun id' hid' => hsub id' (List.mem_cons_of_mem _ hid')) ?_ ?_
        (hlater.trans (MeanwhileHolding.later hdb₂))
      · intro id' hid'
        rcases List.mem_cons.mp hid' with heq | hid'
        · cases heq
          exact hsub id List.mem_cons_self
        · exact hrows id' hid'
      · intro id' hid'
        rcases hall id' hid' with hid' | hid'
        · rcases List.mem_cons.mp hid' with rfl | hid'
          · exact .inr List.mem_cons_self
          · exact .inl hid'
        · exact .inr (List.mem_cons_of_mem _ hid')
  exact hlock rows held db (fun id hid => hid) (fun id hid => absurd hid (hheld id)) (fun id hid => .inl hid) (.refl db)

end Safe

end

end ComplianceHub.Tickets.Interleaved
