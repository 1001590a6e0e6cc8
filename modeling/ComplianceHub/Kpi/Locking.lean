import ComplianceHub.Kpi.Dashboard
import ComplianceHub.Lib.Calls
import ComplianceHub.Lib.Rows

/-!
# Locked monitoring rows

* `MonitoringCall`, `monitoringCalls` : the requests on the monitoring rows, each a read and a save, interleaved;
* `MonitoringCall.overwrites` : the row that a call is about to save over, as it has read it;
* `SavesUnlocked` : the row has not been locked between the read and the save;
* `a_stale_save_unlocks` : a save that finds it locked opens it again;
* `locked_rows_never_change` : a locked row never changes where no save does.

A save writes every column of the entity that differs from the row, so the row becomes the entity.
-/

namespace ComplianceHub.Kpi

open ComplianceHub.Lib

/-! ## The rows -/

structure MonitoringRow extends KpiMonitoring where
  enteredByUserId : Option Int := none
  enteredByStaffId : Option String := none
  enteredByName : Option String := none
deriving DecidableEq, Repr

structure MonitoringTable where
  rows : List MonitoringRow := []
  /-- Every identifier given so far is below it. -/
  nextId : Nat := 0
deriving DecidableEq, Repr

structure UpsertKpiMonitoringDto where
  kpiMasterCode : String
  unitId : Int
  periodYear : Int
  periodMonth : Int
  actualValue : Rat
  remarks : Option String := none
  status : Option KpiMonitoringStatus := none
deriving DecidableEq, Repr

/-- A field that is none is left as it is. -/
structure UpdateKpiMonitoringDto where
  actualValue : Option Rat := none
  remarks : Option String := none
  status : Option KpiMonitoringStatus := none
deriving DecidableEq, Repr

/-- The account of the user, with its formatted name. -/
structure Actor where
  id : Int
  staff_id : Option String := none
  name : String := ""
deriving DecidableEq, Repr

/-- What a step learns from outside: the KPI and the unit of the row, and the account of the user. -/
structure MonitoringAnswer where
  kpiMaster : Option KpiMaster := none
  unitExists : Bool := true
  actor : Option Actor := none

namespace MonitoringTable

variable (t : MonitoringTable)

def byKey (dto : UpsertKpiMonitoringDto) : Option MonitoringRow :=
  t.rows.find? fun row => decide (row.kpiMasterCode = dto.kpiMasterCode ∧ row.unitId = dto.unitId ∧
    row.periodYear = dto.periodYear ∧ row.periodMonth = dto.periodMonth)

def byId (id : Nat) : Option MonitoringRow := t.rows.find? fun row => decide (row.id = id)

/-- A save of an entity with an identifier. -/
def save (row : MonitoringRow) : MonitoringTable :=
  { t with rows := t.rows.map fun old => if old.id = row.id then row else old }

/-- A save of a new entity. -/
def insert (row : MonitoringRow) : MonitoringTable :=
  { rows := t.rows ++ [{ row with id := t.nextId }], nextId := t.nextId + 1 }

end MonitoringTable

/-! ## The requests -/

inductive MonitoringRequest where
  | upsertMonitoring (dto : UpsertKpiMonitoringDto)
  | updateMonitoring (id : Nat) (dto : UpdateKpiMonitoringDto)
  | lockMonitoring (id : Nat)
deriving DecidableEq, Repr

inductive MonitoringCall where
  | request (user : AuthUser) (request : MonitoringRequest)
  /-- An upsert that has read the KPI and the row, if there is one. -/
  | upserting (dto : UpsertKpiMonitoringDto) (kpiMaster : KpiMaster) (row : Option MonitoringRow)
  /-- An update that has read the row. -/
  | updating (dto : UpdateKpiMonitoringDto) (row : MonitoringRow)
  | locking (row : MonitoringRow)
  | ended (result : Except HttpException MonitoringRow)

def notFoundRow (id : Nat) : HttpException := .notFound ("KPI monitoring row " ++ toString id ++ " not found")

def lockedRow : HttpException := .badRequest "This KPI monitoring row is locked."

def orNotFound {α : Type} (found : Option α) (e : HttpException) : Except HttpException α :=
  match found with
  | some a => .ok a
  | none => .error e

def checkYesNo (kpiMaster : KpiMaster) (actualValue : Rat) : Except HttpException Unit :=
  check (kpiMaster.type = .yes_no → actualValue = 0 ∨ actualValue = 1)
    (.badRequest "YES/NO KPI type accepts only 0 (No) or 1 (Yes).")

def enteredBy (actor : Option Actor) (row : MonitoringRow) : MonitoringRow :=
  { row with
    enteredByUserId := actor.map Actor.id
    enteredByStaffId := actor.bind Actor.staff_id
    enteredByName := (actor.map Actor.name).filter (· ≠ "") }

/-- The row that an upsert has found, or a new one, with the values of the body. -/
def upserted (dto : UpsertKpiMonitoringDto) (row : Option MonitoringRow) : MonitoringRow :=
  let row := row.getD {
    id := 0, kpiMasterCode := dto.kpiMasterCode, unitId := dto.unitId, periodYear := dto.periodYear
    periodMonth := dto.periodMonth, actualValue := dto.actualValue }
  { row with actualValue := dto.actualValue, remarks := dto.remarks, status := dto.status.getD .draft }

def updated (dto : UpdateKpiMonitoringDto) (row : MonitoringRow) : MonitoringRow :=
  { row with
    actualValue := dto.actualValue.getD row.actualValue
    remarks := dto.remarks <|> row.remarks
    status := dto.status.getD row.status }

section
variable (t : MonitoringTable) (user : AuthUser) (answer : MonitoringAnswer)

/-- An upsert up to its read of the row. -/
def readUpsert (dto : UpsertKpiMonitoringDto) : Except HttpException MonitoringCall := do
  check (user.isKpiManage = true) (.forbidden "Only compliance/admin roles can encode KPI monitoring values.")
  check (1 ≤ dto.periodMonth ∧ dto.periodMonth ≤ 12) (.badRequest "periodMonth must be between 1 and 12.")
  let kpiMaster ← orNotFound answer.kpiMaster (.notFound ("KPI master " ++ dto.kpiMasterCode ++ " not found"))
  check (answer.unitExists = true) (.notFound ("Unit " ++ toString dto.unitId ++ " not found"))
  let row := t.byKey dto
  check (∀ found ∈ row, found.status ≠ .locked) lockedRow
  pure (.upserting dto kpiMaster row)

/-- An update up to its read of the account. -/
def readUpdate (id : Nat) (dto : UpdateKpiMonitoringDto) : Except HttpException MonitoringCall := do
  check (user.isKpiManage = true) (.forbidden "Only compliance/admin roles can update KPI monitoring values.")
  let row ← orNotFound (t.byId id) (notFoundRow id)
  check (row.status ≠ .locked) lockedRow
  -- the row has been read with its KPI
  let kpiMaster ← orNotFound answer.kpiMaster (.internalServerError "Internal server error")
  checkYesNo kpiMaster (updated dto row).actualValue
  pure (.updating dto row)

def readLock (id : Nat) : Except HttpException MonitoringCall := do
  check (user.isKpiManage = true) (.forbidden "Only compliance/admin roles can lock KPI monitoring rows.")
  let row ← orNotFound (t.byId id) (notFoundRow id)
  pure (.locking row)

def readRequest (request : MonitoringRequest) : Except HttpException MonitoringCall :=
  match request with
  | .upsertMonitoring dto => readUpsert t user answer dto
  | .updateMonitoring id dto => readUpdate t user answer id dto
  | .lockMonitoring id => readLock t user id

/-- The save of an upsert. A new row must not have the key of another one. -/
def saveUpsert (dto : UpsertKpiMonitoringDto) (kpiMaster : KpiMaster) (row : Option MonitoringRow) :
    Except HttpException (MonitoringTable × MonitoringRow) := do
  let entity := enteredBy answer.actor (upserted dto row)
  checkYesNo kpiMaster dto.actualValue
  if row.isSome then pure (t.save entity, entity)
  else do
    check (t.byKey dto = none) (.internalServerError "Internal server error")
    pure (t.insert entity, { entity with id := t.nextId })

def monitoringStep (t : MonitoringTable) (call : MonitoringCall) (answer : MonitoringAnswer) :
    Option (MonitoringTable × MonitoringCall) :=
  match call with
  | .request user request =>
    match readRequest t user answer request with
    | .ok call => some (t, call)
    | .error e => some (t, .ended (.error e))
  | .upserting dto kpiMaster row =>
    match saveUpsert t answer dto kpiMaster row with
    | .ok (t', entity) => some (t', .ended (.ok entity))
    | .error e => some (t, .ended (.error e))
  | .updating dto row =>
    let entity := enteredBy answer.actor (updated dto row)
    some (t.save entity, .ended (.ok entity))
  | .locking row => some (t.save { row with status := .locked }, .ended (.ok { row with status := .locked }))
  | .ended _ => none

end

def MonitoringCall.isStart : MonitoringCall → Prop
  | .request _ _ => True
  | _ => False

/-- Any number of requests on rows with identifiers of their own. -/
def monitoringCalls : Calls MonitoringTable MonitoringCall MonitoringAnswer where
  init t := (t.rows.map (·.id)).Nodup ∧ ∀ row ∈ t.rows, row.id < t.nextId
  start := MonitoringCall.isStart
  step := monitoringStep

/-! ## Locked rows -/

/-- The row that the next step of a call saves over, as the call has read it. -/
def MonitoringCall.overwrites : MonitoringCall → Option MonitoringRow
  | .upserting dto kpiMaster row => row.filter fun _ => (checkYesNo kpiMaster dto.actualValue).isOk
  | .updating _ row => some row
  | .locking row => some row
  | _ => none

/-- A row is stored and locked, with the value and the remarks it was locked with. -/
structure HasLocked (locked : MonitoringRow) (t : MonitoringTable) : Prop where
  stored : locked.id ∈ t.rows.map (·.id)
  same : ∀ row ∈ t.rows, row.id = locked.id →
    row.status = .locked ∧ row.actualValue = locked.actualValue ∧ row.remarks = locked.remarks

section
variable {ι : Type}

abbrev MonitoringTransition (ι : Type) := Transition (Pool ι MonitoringTable MonitoringCall) (ι × MonitoringAnswer)

/-- A save finds its row unlocked, or has read it locked. -/
def SavesUnlocked (e : MonitoringTransition ι) : Prop :=
  ∀ row ∈ (e.before.call e.label.1).overwrites, row.status = .locked ∨
    ∀ current ∈ e.before.shared.rows, current.id = row.id → current.status ≠ .locked

instance (e : MonitoringTransition ι) : Decidable (SavesUnlocked e) := by
  unfold SavesUnlocked
  infer_instance

end

/-- Rows have identifiers of their own. -/
structure Keyed (t : MonitoringTable) : Prop where
  nodup : (t.rows.map (·.id)).Nodup
  fresh : ∀ row ∈ t.rows, row.id < t.nextId

/-- A call holds a row of the table; only a lock has read it locked, and then it still is. -/
structure MonitoringCall.Holds (t : MonitoringTable) (call : MonitoringCall) : Prop where
  stored : ∀ row ∈ call.overwrites, row.id ∈ t.rows.map (·.id)
  locked : ∀ row ∈ call.overwrites, row.status = .locked → call = .locking row ∧ HasLocked row t

/-- What a step makes of the table and of its call. -/
inductive MonitoringStep (t : MonitoringTable) (call : MonitoringCall) : MonitoringTable → MonitoringCall → Prop
  | reads {call' : MonitoringCall} (hstored : ∀ row ∈ call'.overwrites, row ∈ t.rows)
      (hlocked : ∀ row ∈ call'.overwrites, row.status = .locked → call' = .locking row) : MonitoringStep t call t call'
  | saves {row saved : MonitoringRow} {result : Except HttpException MonitoringRow} (hrow : call.overwrites = some row)
      (hid : saved.id = row.id) (hlock : call = .locking row → saved = { row with status := .locked }) :
      MonitoringStep t call (t.save saved) (.ended result)
  | inserts (row : MonitoringRow) {result : Except HttpException MonitoringRow} :
      MonitoringStep t call (t.insert row) (.ended result)

section
variable {t t' : MonitoringTable} {user : AuthUser} {answer : MonitoringAnswer} {call call' : MonitoringCall}

theorem MonitoringStep.raises (e : HttpException) : MonitoringStep t call t (.ended (.error e)) :=
  .reads (fun _ h => by cases h) fun _ h => by cases h

theorem orNotFound_eq_ok {α : Type} {found : Option α} {e : HttpException} {a : α} (h : orNotFound found e = .ok a) :
    found = some a := by
  cases found with
  | none => cases h
  | some b => rw [Except.ok.inj h]

theorem step_readUpsert {dto : UpsertKpiMonitoringDto} (h : readUpsert t user answer dto = .ok call') :
    MonitoringStep t call t call' := by
  obtain ⟨_, -, h⟩ := bind_eq_ok.mp h
  obtain ⟨_, -, h⟩ := bind_eq_ok.mp h
  obtain ⟨kpiMaster, -, h⟩ := bind_eq_ok.mp h
  obtain ⟨_, -, h⟩ := bind_eq_ok.mp h
  obtain ⟨_, hopen, h⟩ := bind_eq_ok.mp h
  cases h
  have hopen := check_eq_ok.mp hopen
  refine .reads (fun row hrow => ?_) fun row hrow hlocked => ?_
  · exact List.mem_of_find?_eq_some (Option.filter_eq_some_iff.mp hrow).1
  · exact absurd hlocked (hopen row (Option.filter_eq_some_iff.mp hrow).1)

theorem step_readUpdate {id : Nat} {dto : UpdateKpiMonitoringDto} (h : readUpdate t user answer id dto = .ok call') :
    MonitoringStep t call t call' := by
  obtain ⟨_, -, h⟩ := bind_eq_ok.mp h
  obtain ⟨found, hfound, h⟩ := bind_eq_ok.mp h
  obtain ⟨_, hopen, h⟩ := bind_eq_ok.mp h
  obtain ⟨kpiMaster, -, h⟩ := bind_eq_ok.mp h
  obtain ⟨_, -, h⟩ := bind_eq_ok.mp h
  cases h
  refine .reads (fun row hrow => ?_) fun row hrow hlocked => ?_
  · cases hrow
    exact List.mem_of_find?_eq_some (orNotFound_eq_ok hfound)
  · cases hrow
    exact absurd hlocked (check_eq_ok.mp hopen)

theorem step_readLock {id : Nat} (h : readLock t user id = .ok call') : MonitoringStep t call t call' := by
  obtain ⟨_, -, h⟩ := bind_eq_ok.mp h
  obtain ⟨found, hfound, h⟩ := bind_eq_ok.mp h
  cases h
  refine .reads (fun row hrow => ?_) fun row hrow _ => ?_
  · cases hrow
    exact List.mem_of_find?_eq_some (orNotFound_eq_ok hfound)
  · cases hrow
    rfl

theorem step_saveUpsert {dto : UpsertKpiMonitoringDto} {kpiMaster : KpiMaster} {row : Option MonitoringRow}
    {saved : MonitoringTable × MonitoringRow} {result : Except HttpException MonitoringRow}
    (h : saveUpsert t answer dto kpiMaster row = .ok saved) :
    MonitoringStep t (.upserting dto kpiMaster row) saved.1 (.ended result) := by
  obtain ⟨_, hyesNo, h⟩ := bind_eq_ok.mp h
  cases row with
  | some row =>
    cases h
    have hoverwrites : (MonitoringCall.upserting dto kpiMaster (some row)).overwrites = some row := by
      rw [MonitoringCall.overwrites, hyesNo]
      rfl
    exact .saves hoverwrites rfl fun hcall => by cases hcall
  | none =>
    obtain ⟨_, -, h⟩ := bind_eq_ok.mp h
    cases h
    exact .inserts _

theorem step_of_monitoringStep (h : monitoringStep t call answer = some (t', call')) : MonitoringStep t call t' call' := by
  cases call with
  | request user request =>
    simp only [monitoringStep] at h
    split at h
    · rename_i read hread
      cases h
      cases request with
      | upsertMonitoring dto => exact step_readUpsert hread
      | updateMonitoring id dto => exact step_readUpdate hread
      | lockMonitoring id => exact step_readLock hread
    · cases h
      exact .raises _
  | upserting dto kpiMaster row =>
    simp only [monitoringStep] at h
    split at h
    · rename_i t' entity hsave
      cases h
      exact step_saveUpsert hsave
    · cases h
      exact .raises _
  | updating dto row =>
    cases h
    exact .saves rfl rfl fun hcall => by cases hcall
  | locking row =>
    cases h
    exact .saves rfl rfl fun _ => rfl
  | ended result => cases h

/-! ### Invariants -/

theorem MonitoringCall.Holds.of_none (h : call.overwrites = none) : call.Holds t := by
  constructor
  · intro row hrow
    rw [h] at hrow
    cases hrow
  · intro row hrow
    rw [h] at hrow
    cases hrow

theorem ids_save (row : MonitoringRow) : (t.save row).rows.map (·.id) = t.rows.map (·.id) := by
  unfold MonitoringTable.save
  exact map_column_of_change fun _ _ hid => hid.symm

theorem ids_insert (row : MonitoringRow) : (t.insert row).rows.map (·.id) = t.rows.map (·.id) ++ [t.nextId] := by
  rw [MonitoringTable.insert, List.map_append]
  rfl

theorem Keyed.step (h : Keyed t) (hstep : MonitoringStep t call t' call') : Keyed t' := by
  cases hstep with
  | reads _ _ => exact h
  | saves _ _ _ =>
    refine ⟨?_, fun row hrow => ?_⟩
    · rw [ids_save]
      exact h.nodup
    · have hid := List.mem_map_of_mem (f := (·.id)) hrow
      rw [ids_save] at hid
      obtain ⟨old, hold, hid⟩ := List.mem_map.mp hid
      exact hid ▸ h.fresh old hold
  | inserts row =>
    refine ⟨?_, fun row hrow => ?_⟩
    · exact nodup_ids_concat h.nodup h.fresh
    · rcases List.mem_append.mp hrow with hrow | hrow
      · exact Nat.lt_succ_of_lt (h.fresh row hrow)
      · rw [List.mem_singleton.mp hrow]
        exact Nat.lt_succ_self _

theorem Keyed.hasLocked (h : Keyed t) {row : MonitoringRow} (hrow : row ∈ t.rows) (hlocked : row.status = .locked) :
    HasLocked row t := by
  refine ⟨List.mem_map_of_mem hrow, fun other hother hid => ?_⟩
  rw [List.inj_on_of_nodup_map h.nodup hother hrow hid]
  exact ⟨hlocked, rfl, rfl⟩

theorem MonitoringStep.ids (h : MonitoringStep t call t' call') {id : Nat} (hid : id ∈ t.rows.map (·.id)) :
    id ∈ t'.rows.map (·.id) := by
  cases h with
  | reads _ _ => exact hid
  | saves _ _ _ => rwa [ids_save]
  | inserts row =>
    rw [ids_insert]
    exact List.mem_append_left _ hid

/-- A step that saves over no row that has been locked since leaves the locked rows. -/
theorem HasLocked.step {locked : MonitoringRow} (h : HasLocked locked t) (hkeyed : Keyed t) (hholds : call.Holds t)
    (hunlocked : ∀ row ∈ call.overwrites, row.status = .locked ∨
      ∀ current ∈ t.rows, current.id = row.id → current.status ≠ .locked)
    (hstep : MonitoringStep t call t' call') : HasLocked locked t' := by
  refine ⟨hstep.ids h.stored, ?_⟩
  cases hstep with
  | reads _ _ => exact h.same
  | @saves row saved result hrow hid hlock =>
    intro other hother hsame
    obtain ⟨old, hold, rfl⟩ := List.mem_map.mp hother
    split_ifs at hsame ⊢ with hover
    · -- the saved row is the locked one: the call has read it locked
      obtain ⟨hstatus, hvalue, hremarks⟩ := h.same old hold (hover.trans hsame)
      have hread : row.status = .locked := by
        rcases hunlocked row hrow with hread | hopen
        · exact hread
        · exact absurd hstatus (hopen old hold (hover.trans hid))
      obtain ⟨hcall, hhas⟩ := hholds.locked row hrow hread
      obtain ⟨-, hvalue', hremarks'⟩ := hhas.same old hold (hover.trans hid)
      rw [hlock hcall]
      exact ⟨rfl, hvalue'.symm.trans hvalue, hremarks'.symm.trans hremarks⟩
    · exact h.same old hold hsame
  | inserts row =>
    intro other hother hsame
    rcases List.mem_append.mp hother with hother | hother
    · exact h.same other hother hsame
    · -- a new row has a new identifier
      rw [List.mem_singleton.mp hother] at hsame
      obtain ⟨old, hold, hid⟩ := List.mem_map.mp h.stored
      exact absurd (hid.trans hsame.symm) (hkeyed.fresh old hold).ne

end

section
variable {ι : Type} [DecidableEq ι] {history : List (MonitoringTransition ι)} {p p' : Pool ι MonitoringTable MonitoringCall}
  {l : ι × MonitoringAnswer}

/-- In every run whose saves find their rows unlocked, the calls hold rows of the table. -/
theorem holds_of_run (h : Run (monitoringCalls.interleaved ι) history p) (hP : ∀ e ∈ history, SavesUnlocked e) :
    Keyed p.shared ∧ ∀ i, (p.call i).Holds p.shared := by
  refine Calls.always (S := Keyed) (L := fun _ t call => call.Holds t) (P := SavesUnlocked) ?_ ?_ ?_ ?_ h hP
  · intro t ht
    exact ⟨ht.1, ht.2⟩
  · intro i t call _ hstart
    cases call with
    | request user request => exact .of_none rfl
    | _ => exact hstart.elim
  · intro p i answer r hkeyed hholds hr hp
    have hstep : MonitoringStep _ _ r.1 r.2 := step_of_monitoringStep hr
    refine ⟨hkeyed.step hstep, ?_⟩
    generalize r.1 = t', r.2 = call' at hstep
    cases hstep with
    | reads hstored hlocked =>
      refine ⟨fun row hrow => List.mem_map_of_mem (hstored row hrow), fun row hrow hstatus => ?_⟩
      exact ⟨hlocked row hrow hstatus, hkeyed.hasLocked (hstored row hrow) hstatus⟩
    | _ => exact .of_none rfl
  · intro p i answer r j hj hkeyed hholds hother hr hp
    have hstep : MonitoringStep _ _ r.1 r.2 := step_of_monitoringStep hr
    refine ⟨fun row hrow => hstep.ids (hother.stored row hrow), fun row hrow hstatus => ?_⟩
    obtain ⟨hcall, hhas⟩ := hother.locked row hrow hstatus
    exact ⟨hcall, hhas.step hkeyed hholds hp hstep⟩

/-- **A locked row never changes**, in every run whose saves find their rows unlocked, or have read them locked. -/
theorem locked_rows_never_change (h : Run (monitoringCalls.interleaved ι) history p)
    (hP : ∀ e ∈ history, SavesUnlocked e) :
    ∀ first e rest row, history = first ++ e :: rest → row ∈ e.before.shared.rows → row.status = .locked →
      ∀ e' ∈ e :: rest, HasLocked row e'.after.shared := by
  intro first e rest row heq hrow hstatus
  have hinv : ∀ e' ∈ history, Keyed e'.before.shared ∧ ∀ i, (e'.before.call i).Holds e'.before.shared := by
    intro e' he'
    obtain ⟨-, earlier, hrun, hpast⟩ := h.reached e' he'
    exact holds_of_run hrun fun e he => hP e (hpast.subset he)
  refine h.onward (I := fun p => HasLocked row p.shared) (fun e' he' hbefore => ?_) heq ?_
  · obtain ⟨r, hr, hafter⟩ := (h.reached e' he').1
    rw [hafter]
    exact hbefore.step (hinv e' he').1 ((hinv e' he').2 _) (hP e' he') (step_of_monitoringStep hr)
  · exact (hinv e (heq ▸ List.mem_append_right _ List.mem_cons_self)).1.hasLocked hrow hstatus

end

/-! ## A stale save -/

def draftRow : MonitoringRow where
  id := 1
  kpiMasterCode := "A"
  unitId := 1
  periodYear := 2026
  periodMonth := 1
  actualValue := 10

def encoder : AuthUser := { isKpiManage := true, units := [] }

def measured : MonitoringAnswer := { kpiMaster := some { code := "A", targetValue := 10 } }

/-- Call 0 corrects the value, call 1 locks the row. -/
def correctAndLock : Pool (Fin 2) MonitoringTable MonitoringCall where
  shared := { rows := [draftRow], nextId := 2 }
  call
    | 0 => .request encoder (.updateMonitoring 1 { actualValue := some 20 })
    | 1 => .request encoder (.lockMonitoring 1)

theorem correctAndLock_init : (monitoringCalls.interleaved (Fin 2)).init correctAndLock := by
  refine ⟨⟨List.nodup_singleton 1, fun row hrow => ?_⟩, fun i => ?_⟩
  · rw [List.mem_singleton.mp hrow]
    decide
  · match i with
    | 0 | 1 => trivial

/-- The row is locked between the read and the save of the correction. -/
def staleLog : monitoringCalls.Log (Fin 2) :=
  (monitoringCalls.execute correctAndLock ([0, 1, 1, 0].map fun i => (i, measured))).get (by decide +kernel)

theorem a_stale_save_unlocks : ∃ history p, Run (monitoringCalls.interleaved (Fin 2)) history p ∧
    ∃ first e rest row, history = first ++ e :: rest ∧ row ∈ e.before.shared.rows ∧ row.status = .locked ∧
      ¬ ∀ e' ∈ e :: rest, HasLocked row e'.after.shared := by
  refine ⟨staleLog.1, staleLog.2, Calls.run_of_execute correctAndLock_init (Option.some_get _).symm,
    staleLog.1.take 3, staleLog.1.get ⟨3, by decide +kernel⟩, staleLog.1.drop 4, { draftRow with status := .locked }, ?_,
    ?_, rfl, ?_⟩
  · rw [List.get_eq_getElem, ← List.drop_eq_getElem_cons, List.take_append_drop]
  · decide +kernel
  · intro h
    have hopen := (h _ List.mem_cons_self).same { draftRow with actualValue := 20 } (by decide +kernel) rfl
    exact absurd hopen.1 (by decide)

/-- The correction is saved before the row is locked. -/
theorem locked_rows_never_change_prompt : ∃ history p, Run (monitoringCalls.interleaved (Fin 2)) history p ∧
    (∃ row ∈ p.shared.rows, row.status = .locked) ∧
    ∀ first e rest row, history = first ++ e :: rest → row ∈ e.before.shared.rows → row.status = .locked →
      ∀ e' ∈ e :: rest, HasLocked row e'.after.shared := by
  have hlog : (monitoringCalls.execute correctAndLock ([0, 0, 1, 1].map fun i => (i, measured))).any
      (fun log => (log.2.shared.rows.any fun row => row.status = .locked) && log.1.all fun e => decide (SavesUnlocked e)) =
        true := by
    decide +kernel
  obtain ⟨log, hexecute, hlog⟩ := (Option.any_eq_true _ _).mp hlog
  rw [Bool.and_eq_true, List.all_eq_true, List.any_eq_true] at hlog
  obtain ⟨⟨row, hrow, hlocked⟩, hsaves⟩ := hlog
  have hrun := Calls.run_of_execute (C := monitoringCalls) correctAndLock_init hexecute
  exact ⟨_, _, hrun, ⟨row, hrow, of_decide_eq_true hlocked⟩,
    locked_rows_never_change hrun fun e he => of_decide_eq_true (hsaves e he)⟩

end ComplianceHub.Kpi
