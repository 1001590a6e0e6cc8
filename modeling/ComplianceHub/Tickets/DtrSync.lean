import ComplianceHub.Lib.Calls
import ComplianceHub.Tickets.Types

/-!
# Attendance of a day under concurrent calls

The calls that write the attendance of one date, each as its reads and its saves: between them any other call may take
its steps.

* `DayRecords` : the rows of the date, one for a user at most, and what the service knows of the DTR view; a save writes
  every column of the record in memory;
* `Call`, `attendanceCalls` : `setAttendance`, `restoreAttendanceFromDtr`, `markMissingAttendanceAsAbsent` and
  `syncAttendanceWithDTR`, whose turns are its records one by one;
* `Decides`, `Resets` : the saves of a manual decision, and those that may replace it; `Stands` : the decisions stand;
* `manual_stands_iff` : they stand throughout a run exactly if no sync comes to save a record that has become manual
  since it read it.
-/

namespace ComplianceHub.Tickets.DtrSync
open Lib

/-! ## The rows of a date -/

structure TechAttendance where
  status : AttendanceStatus
  clockInTime : Option Int := none
  isManualOverride : Bool := false
  setById : Option Nat := none
  notes : Option String := none
deriving DecidableEq, Repr

structure DayRecords where
  /-- The row of a user. -/
  row : Nat → Option TechAttendance
  isDtrViewOnline : Bool := true
  /-- The date is that of the last successful sync. -/
  synced : Bool := false

namespace DayRecords

variable (s : DayRecords)

def write (userId : Nat) (record : TechAttendance) : DayRecords :=
  { s with row := Function.update s.row userId (some record) }

/-- The rows of several users are inserted. -/
def insertAll (userIds : List Nat) (record : TechAttendance) : DayRecords :=
  { s with row := fun userId => if userId ∈ userIds then some record else s.row userId }

end DayRecords

/-! ## The calls -/

structure SetAttendanceDto where
  userId : Nat
  status : AttendanceStatus
  notes : Option String := none
  /-- None where it is not given; a blank one clears the time. -/
  clockInTime : Option (Option Int) := none

/-- A staff member with a DTR identity. -/
structure Tech where
  id : Nat
  staffId : String

structure DtrRecord where
  empCode : String
  firstClockInTime : Option Int

inductive Call where
  | idle
  /-- The record read, and what the actor sets. -/
  | setting (dto : SetAttendanceDto) (setById : Nat) (record : Option TechAttendance)
  | restoring (userId : Nat) (record : TechAttendance)
  | marking (missing : List Nat)
  /-- The records read, as far as the loop has changed them, and the DTR records to come. -/
  | syncing (validTechs : List Tech) (existing : Nat → Option TechAttendance) (rest : List DtrRecord)
  | done

/-- What a step of a call learns. -/
inductive Input where
  | setAttendance (dto : SetAttendanceDto) (setById : Nat) (isAttendanceManage : Bool)
  | restoreAttendanceFromDtr (userId : Nat) (isAttendanceManage : Bool)
  /-- The staff with a DTR identity, and whether the date is an office day without overtime. -/
  | markMissingAttendanceAsAbsent (staff : List Nat) (officeDay : Bool)
  | syncAttendanceWithDTR (enabled : Bool) (validTechs : List Tech) (dtrRecords : List DtrRecord)
  /-- The next save, or the next turn of a loop. -/
  | proceed
  /-- The clock-in that the DTR view has for a restored staff member. -/
  | clockIn (firstClockInTime : Option Int)
  /-- A query fails. -/
  | fails

/-- The record that `setAttendance` saves. -/
def decided (dto : SetAttendanceDto) (setById : Nat) (record : Option TechAttendance) : TechAttendance :=
  match record with
  | some record =>
    { status := dto.status, notes := dto.notes <|> record.notes, setById := some setById, isManualOverride := true
      clockInTime := dto.clockInTime.getD record.clockInTime }
  | none =>
    { status := dto.status, notes := dto.notes, setById := some setById, isManualOverride := true
      clockInTime := dto.clockInTime.getD none }

/-- The record that `restoreAttendanceFromDtr` saves. -/
def restored (clockInTime : Int) : TechAttendance where
  status := .present
  clockInTime := some clockInTime
  isManualOverride := false
  setById := none
  notes := some "Restored from the verified DTR clock-in record."

def missed : TechAttendance where
  status := .absent
  notes := some "No DTR clock-in recorded by the configured end of the workday."

/-- What a turn of the sync does. -/
inductive Turn where
  | skip
  | save (userId : Nat) (record : TechAttendance)
  | create (userId : Nat) (record : TechAttendance)

/-- The clock-in or the status of a record differs from that of a DTR record. -/
def differs (record : TechAttendance) (firstClockInTime : Int) : Bool :=
  record.clockInTime ≠ some firstClockInTime || record.status ≠ .present

def syncTurn (validTechs : List Tech) (existing : Nat → Option TechAttendance) (dtr : DtrRecord) : Turn :=
  match dtr.firstClockInTime, validTechs.find? fun tech => tech.staffId = dtr.empCode with
  | some firstClockInTime, some tech =>
    match existing tech.id with
    | none =>
      .create tech.id { status := .present, clockInTime := firstClockInTime, notes := some "Marked present on sync." }
    | some record =>
      if record.isManualOverride = true ∨ differs record firstClockInTime = false then .skip
      else
        .save tech.id
          { record with
            status := .present, clockInTime := some firstClockInTime, notes := some "Marked present on sync." }
  | _, _ => .skip

/-- The records by clock-in time; one without a time counts as the first instant. -/
def chronological (dtrRecords : List DtrRecord) : List DtrRecord :=
  dtrRecords.mergeSort fun a b => a.firstClockInTime.getD 0 ≤ b.firstClockInTime.getD 0

/-- The reads of a call. -/
def begins (s : DayRecords) : Input → Option (DayRecords × Call)
  | .setAttendance dto setById isAttendanceManage =>
    some (s, if dto.userId = 0 ∨ isAttendanceManage = false then .done else .setting dto setById (s.row dto.userId))
  | .restoreAttendanceFromDtr userId isAttendanceManage =>
    match s.row userId with
    | some record =>
      some (s, if isAttendanceManage = false ∨ record.isManualOverride = false ∨ s.isDtrViewOnline = false then .done
        else .restoring userId record)
    | none => some (s, .done)
  | .markMissingAttendanceAsAbsent staff officeDay =>
    let missing := staff.filter fun userId => (s.row userId).isNone
    some (s, if officeDay = false ∨ s.isDtrViewOnline = false ∨ s.synced = false ∨ missing = [] then .done
      else .marking missing)
  | .syncAttendanceWithDTR enabled validTechs dtrRecords =>
    if enabled = false then some ({ s with isDtrViewOnline := false }, .done)
    else if validTechs.isEmpty then some (s, .done)
    else
      some ({ s with isDtrViewOnline := true, synced := true },
        .syncing validTechs (fun userId => if userId ∈ validTechs.map Tech.id then s.row userId else none)
          (chronological dtrRecords))
  | _ => none

/-- A failure ends a call; that of a sync is taken for one of the DTR view. -/
def ends (s : DayRecords) (call : Call) : DayRecords × Call :=
  match call with
  | .syncing _ _ _ => ({ s with isDtrViewOnline := false }, .done)
  | _ => (s, .done)

/-- A turn of the sync, after which `rest` is to come. -/
def takeTurn (s : DayRecords) (validTechs : List Tech) (existing : Nat → Option TechAttendance) (rest : List DtrRecord) :
    Turn → DayRecords × Call
  | .skip => (s, .syncing validTechs existing rest)
  | .save userId record =>
    (s.write userId record, .syncing validTechs (Function.update existing userId (some record)) rest)
  | .create userId record =>
    if (s.row userId).isSome then ends s (.syncing validTechs existing rest)
    else (s.write userId record, .syncing validTechs existing rest)

/-- The next step of a call that has begun. -/
def proceeds (s : DayRecords) : Call → DayRecords × Call
  | .setting dto setById record =>
    if record = none ∧ s.row dto.userId ≠ none then (s, .done) else (s.write dto.userId (decided dto setById record), .done)
  | .marking missing =>
    if missing.any fun userId => (s.row userId).isSome then (s, .done) else (s.insertAll missing missed, .done)
  | .syncing validTechs existing (dtr :: rest) => takeTurn s validTechs existing rest (syncTurn validTechs existing dtr)
  | _ => (s, .done)

def step (s : DayRecords) (call : Call) (input : Input) : Option (DayRecords × Call) :=
  match call, input with
  | .idle, input => begins s input
  | .done, _ => none
  | call, .fails => some (ends s call)
  | .restoring userId _, .clockIn firstClockInTime =>
    some (match firstClockInTime with
      | some time => (s.write userId (restored time), .done)
      | none => (s, .done))
  | .restoring _ _, _ => none
  | call, .proceed => some (proceeds s call)
  | _, _ => none

/-- The calls of a date, from any rows. -/
def attendanceCalls : Calls DayRecords Call Input where
  init _ := True
  start call := call = .idle
  step := step

/-! ## Who writes the row of a user -/

/-- A decision on a user is saved. -/
def Sets (s : DayRecords) (call : Call) (input : Input) (userId : Nat) (status : AttendanceStatus) : Prop :=
  input = .proceed ∧ ∃ dto setById record, call = .setting dto setById record ∧ dto.userId = userId ∧
    dto.status = status ∧ (record = none → s.row userId = none)

/-- The record of a user is restored from the DTR view. -/
def Restores (call : Call) (input : Input) (userId : Nat) : Prop :=
  ∃ record time, call = .restoring userId record ∧ input = .clockIn (some time)

/-- A sync saves the record of a user that it has read. -/
def SyncSaves (call : Call) (input : Input) (userId : Nat) : Prop :=
  input = .proceed ∧ ∃ validTechs existing dtr rest record, call = .syncing validTechs existing (dtr :: rest) ∧
    syncTurn validTechs existing dtr = .save userId record

/-- The row of a user is manual, or not. -/
def HasRow (s : DayRecords) (userId : Nat) (isManualOverride : Bool) : Prop :=
  ∃ record, s.row userId = some record ∧ record.isManualOverride = isManualOverride

section
variable {s s' : DayRecords} {call call' : Call} {input : Input} {userId : Nat}

@[simp] theorem write_row_self {record : TechAttendance} : (s.write userId record).row userId = some record :=
  Function.update_self ..

theorem write_row_of_ne {record : TechAttendance} {other : Nat} (h : other ≠ userId) :
    (s.write userId record).row other = s.row other := Function.update_of_ne h ..

theorem decided_manual (dto : SetAttendanceDto) (setById : Nat) (record : Option TechAttendance) :
    (decided dto setById record).isManualOverride = true ∧ (decided dto setById record).status = dto.status := by
  cases record <;> exact ⟨rfl, rfl⟩

/-- A turn that saves has read the record as one that is not manual, and leaves it so. -/
theorem syncTurn_save {validTechs : List Tech} {existing : Nat → Option TechAttendance} {dtr : DtrRecord}
    {record : TechAttendance} (h : syncTurn validTechs existing dtr = .save userId record) :
    record.isManualOverride = false ∧ ∃ before, existing userId = some before ∧ before.isManualOverride = false := by
  unfold syncTurn at h
  split at h
  · split at h
    · simp at h
    · rename_i before hbefore
      split_ifs at h with hskip
      obtain ⟨rfl, rfl⟩ := Turn.save.inj h
      push Not at hskip
      have hmanual := Bool.eq_false_iff.mpr hskip.1
      exact ⟨hmanual, before, hbefore, hmanual⟩
  · simp at h

theorem syncTurn_create {validTechs : List Tech} {existing : Nat → Option TechAttendance} {dtr : DtrRecord}
    {record : TechAttendance} (h : syncTurn validTechs existing dtr = .create userId record) :
    record.isManualOverride = false := by
  unfold syncTurn at h
  split at h
  · split at h
    · obtain ⟨rfl, rfl⟩ := Turn.create.inj h
      rfl
    · split_ifs at h
  · simp at h

/-- A call that begins writes no row. -/
theorem begins_row {r : DayRecords × Call} (h : begins s input = some r) : r.1.row = s.row := by
  unfold begins at h
  split at h
  · obtain rfl := Option.some.inj h
    rfl
  · split at h
    · obtain rfl := Option.some.inj h
      rfl
    · obtain rfl := Option.some.inj h
      rfl
  · obtain rfl := Option.some.inj h
    rfl
  · split_ifs at h
    · obtain rfl := Option.some.inj h
      rfl
    · obtain rfl := Option.some.inj h
      rfl
    · obtain rfl := Option.some.inj h
      rfl
  · simp at h

theorem ends_row : (ends s call).1.row = s.row := by
  unfold ends
  split <;> rfl

/-- What a turn of the sync does to the row of a user. -/
theorem takeTurn_row (validTechs : List Tech) (existing : Nat → Option TechAttendance) (rest : List DtrRecord)
    (dtr : DtrRecord) (userId : Nat) :
    let s' := (takeTurn s validTechs existing rest (syncTurn validTechs existing dtr)).1
    s'.row userId = s.row userId ∨
      ((∃ record, syncTurn validTechs existing dtr = .save userId record) ∨ s.row userId = none) ∧ HasRow s' userId false := by
  cases hturn : syncTurn validTechs existing dtr with
  | skip => exact .inl rfl
  | save other record =>
    by_cases hother : userId = other
    · subst hother
      exact .inr ⟨.inl ⟨record, rfl⟩, record, write_row_self, (syncTurn_save hturn).1⟩
    · exact .inl (write_row_of_ne hother)
  | create other record =>
    dsimp only [takeTurn]
    split_ifs with hsome
    · exact .inl (by rw [ends_row])
    · rw [Bool.not_eq_true, Option.isSome_eq_false_iff, Option.isNone_iff_eq_none] at hsome
      by_cases hother : userId = other
      · subst hother
        exact .inr ⟨.inr hsome, record, write_row_self, syncTurn_create hturn⟩
      · exact .inl (write_row_of_ne hother)

/-- What the next step of a call does to the row of a user. -/
theorem proceeds_row (userId : Nat) : (proceeds s call).1.row userId = s.row userId ∨
    (∃ status, Sets s call .proceed userId status) ∧ HasRow (proceeds s call).1 userId true ∨
      (SyncSaves call .proceed userId ∨ s.row userId = none) ∧ HasRow (proceeds s call).1 userId false := by
  unfold proceeds
  split
  · rename_i dto setById record
    split_ifs with hrefused
    · exact .inl rfl
    · by_cases hother : userId = dto.userId
      · subst hother
        refine .inr (.inl ⟨⟨dto.status, rfl, dto, setById, record, rfl, rfl, rfl, fun hnone => ?_⟩, _, write_row_self,
          (decided_manual dto setById record).1⟩)
        by_contra hrow
        exact hrefused ⟨hnone, hrow⟩
      · exact .inl (write_row_of_ne hother)
  · rename_i missing
    split_ifs with hrefused
    · exact .inl rfl
    · by_cases hmem : userId ∈ missing
      · have hnone : s.row userId = none := by
          by_contra hrow
          exact hrefused (List.any_eq_true.mpr ⟨userId, hmem, Option.isSome_iff_ne_none.mpr hrow⟩)
        exact .inr (.inr ⟨.inr hnone, missed, if_pos hmem, rfl⟩)
      · exact .inl (if_neg hmem)
  · rename_i validTechs existing dtr rest
    rcases takeTurn_row (s := s) validTechs existing rest dtr userId with hsame | ⟨⟨record, hsave⟩ | hnone, hrow⟩
    · exact .inl hsame
    · exact .inr (.inr ⟨.inl ⟨rfl, validTechs, existing, dtr, rest, record, rfl, hsave⟩, hrow⟩)
    · exact .inr (.inr ⟨.inr hnone, hrow⟩)
  · exact .inl rfl

/-- What a step does to the row of a user: nothing, or one of the saves. -/
theorem step_row {r : DayRecords × Call} (h : step s call input = some r) (userId : Nat) :
    r.1.row userId = s.row userId ∨
    (∃ status, Sets s call input userId status) ∧ HasRow r.1 userId true ∨
      (Restores call input userId ∨ SyncSaves call input userId ∨ s.row userId = none) ∧ HasRow r.1 userId false := by
  unfold step at h
  split at h
  · exact .inl (by rw [begins_row h])
  · simp at h
  · obtain rfl := Option.some.inj h
    exact .inl (by rw [ends_row])
  · rename_i other record firstClockInTime
    obtain rfl := Option.some.inj h
    cases firstClockInTime with
    | none => exact .inl rfl
    | some time =>
      by_cases hother : userId = other
      · subst hother
        exact .inr (.inr ⟨.inl ⟨record, time, rfl, rfl⟩, _, write_row_self, rfl⟩)
      · exact .inl (write_row_of_ne hother)
  · simp at h
  · obtain rfl := Option.some.inj h
    rcases proceeds_row userId with hsame | hset | ⟨hsync | hnone, hrow⟩
    · exact .inl hsame
    · exact .inr (.inl hset)
    · exact .inr (.inr ⟨.inr (.inl hsync), hrow⟩)
    · exact .inr (.inr ⟨.inr (.inr hnone), hrow⟩)
  · simp at h

/-- The row that a decision leaves. -/
theorem row_of_sets {r : DayRecords × Call} {status : AttendanceStatus} (h : step s call input = some r)
    (hsets : Sets s call input userId status) :
    ∃ record, r.1.row userId = some record ∧ record.isManualOverride = true ∧ record.status = status := by
  obtain ⟨rfl, dto, setById, record, rfl, rfl, rfl, hnone⟩ := hsets
  obtain rfl := Option.some.inj h
  refine ⟨decided dto setById record, ?_, decided_manual dto setById record⟩
  unfold proceeds
  dsimp only
  rw [if_neg fun hrefused => hrefused.2 (hnone hrefused.1), write_row_self]

theorem row_of_restores {r : DayRecords × Call} (h : step s call input = some r) (hrestores : Restores call input userId) :
    HasRow r.1 userId false := by
  obtain ⟨record, time, rfl, rfl⟩ := hrestores
  obtain rfl := Option.some.inj h
  exact ⟨_, write_row_self, rfl⟩

theorem not_hasRow_both (h : HasRow s userId true) (h' : HasRow s userId false) : False := by
  obtain ⟨record, hrow, hmanual⟩ := h
  obtain ⟨record', hrow', hmanual'⟩ := h'
  rw [hrow, Option.some.injEq] at hrow'
  rw [hrow', hmanual'] at hmanual
  exact absurd hmanual (by decide)

/-- The records that a sync begins with are rows. -/
theorem begins_existing {r : DayRecords × Call} {validTechs : List Tech} {existing : Nat → Option TechAttendance}
    {rest : List DtrRecord} (h : begins s input = some r) (hcall : r.2 = .syncing validTechs existing rest)
    {record : TechAttendance} (hread : existing userId = some record) : s.row userId = some record := by
  unfold begins at h
  split at h
  · obtain rfl := Option.some.inj h
    dsimp only at hcall
    split_ifs at hcall
  · split at h
    · obtain rfl := Option.some.inj h
      dsimp only at hcall
      split_ifs at hcall
    · obtain rfl := Option.some.inj h
      exact absurd hcall (by simp)
  · obtain rfl := Option.some.inj h
    dsimp only at hcall
    split_ifs at hcall
  · split_ifs at h
    · obtain rfl := Option.some.inj h
      exact absurd hcall (by simp)
    · obtain rfl := Option.some.inj h
      exact absurd hcall (by simp)
    · obtain rfl := Option.some.inj h
      obtain ⟨rfl, rfl, rfl⟩ := Call.syncing.inj hcall
      dsimp only at hread
      split_ifs at hread with hmem
      exact hread
  · simp at h

/-- The records after a turn of a sync are those before, but for one that it has saved. -/
theorem takeTurn_existing {validTechs validTechs' : List Tech} {existing existing' : Nat → Option TechAttendance}
    {rest rest' : List DtrRecord} {dtr : DtrRecord}
    (hcall : (takeTurn s validTechs existing rest (syncTurn validTechs existing dtr)).2 =
      .syncing validTechs' existing' rest') {record : TechAttendance} (hread : existing' userId = some record) :
    HasRow (takeTurn s validTechs existing rest (syncTurn validTechs existing dtr)).1 userId false ∨
      existing userId = some record := by
  cases hturn : syncTurn validTechs existing dtr with
  | skip =>
    rw [hturn] at hcall
    obtain ⟨-, rfl, -⟩ := Call.syncing.inj hcall
    exact .inr hread
  | save other saved =>
    rw [hturn] at hcall
    obtain ⟨-, rfl, -⟩ := Call.syncing.inj hcall
    by_cases hother : userId = other
    · subst hother
      exact .inl ⟨saved, write_row_self, (syncTurn_save hturn).1⟩
    · rw [Function.update_of_ne hother] at hread
      exact .inr hread
  | create other saved =>
    rw [hturn] at hcall
    dsimp only [takeTurn] at hcall
    split_ifs at hcall
    · exact absurd hcall (by simp [ends])
    · obtain ⟨-, rfl, -⟩ := Call.syncing.inj hcall
      exact .inr hread

theorem proceeds_existing {validTechs : List Tech} {existing : Nat → Option TechAttendance} {rest : List DtrRecord}
    (hcall : (proceeds s call).2 = .syncing validTechs existing rest) {record : TechAttendance}
    (hread : existing userId = some record) : HasRow (proceeds s call).1 userId false ∨
      ∃ validTechs before more, call = .syncing validTechs before more ∧ before userId = some record := by
  unfold proceeds at hcall ⊢
  split at hcall
  · split_ifs at hcall
  · split_ifs at hcall
  · rename_i validTechs' before dtr more
    exact (takeTurn_existing hcall hread).imp_right fun hbefore => ⟨validTechs', before, _, rfl, hbefore⟩
  · exact absurd hcall (by simp)

/-- Where a record of a sync comes from. -/
theorem existing_step {r : DayRecords × Call} {validTechs : List Tech} {existing : Nat → Option TechAttendance}
    {rest : List DtrRecord} (h : step s call input = some r) (hcall : r.2 = .syncing validTechs existing rest)
    {record : TechAttendance} (hread : existing userId = some record) :
    s.row userId = some record ∨ HasRow r.1 userId false ∨
      ∃ validTechs before more, call = .syncing validTechs before more ∧ before userId = some record := by
  unfold step at h
  split at h
  · exact .inl (begins_existing h hcall hread)
  · simp at h
  · obtain rfl := Option.some.inj h
    unfold ends at hcall
    split at hcall <;> exact absurd hcall (by simp)
  · obtain rfl := Option.some.inj h
    split at hcall <;> exact absurd hcall (by simp)
  · simp at h
  · obtain rfl := Option.some.inj h
    exact .inr (proceeds_existing hcall hread)
  · simp at h

/-- The save of a sync leaves a row that is not manual. -/
theorem row_of_syncSaves {r : DayRecords × Call} (h : step s call input = some r) (hsaves : SyncSaves call input userId) :
    HasRow r.1 userId false := by
  obtain ⟨rfl, validTechs, existing, dtr, rest, record, rfl, hturn⟩ := hsaves
  obtain rfl := Option.some.inj h
  refine ⟨record, ?_, (syncTurn_save hturn).1⟩
  show (takeTurn s validTechs existing rest (syncTurn validTechs existing dtr)).1.row userId = some record
  rw [hturn]
  exact write_row_self

end

/-! ## Decisions stand -/

section
variable {ι : Type}

/-- The calls of a run, each with a name. -/
abbrev Taken (ι : Type) := Transition (Lib.Pool ι DayRecords Call) (ι × Input)

def Decides (userId : Nat) (status : AttendanceStatus) (e : Taken ι) : Prop :=
  Sets e.before.shared (e.before.call e.label.1) e.label.2 userId status

/-- A decision on a user, or the return to the DTR view. -/
def Resets (userId : Nat) (e : Taken ι) : Prop :=
  (∃ status, Decides userId status e) ∨ Restores (e.before.call e.label.1) e.label.2 userId

/-- A decision on a user, with none and no return to the DTR view after it. -/
def Authoritative (userId : Nat) (status : AttendanceStatus) (history : List (Taken ι)) : Prop :=
  ∃ e, Since (Decides userId status) (Resets userId) history e

/-- The rows are those of the decisions. -/
def Stands (history : List (Taken ι)) (p : Lib.Pool ι DayRecords Call) : Prop :=
  ∀ userId status, Authoritative userId status history →
    ∃ record, p.shared.row userId = some record ∧ record.isManualOverride = true ∧ record.status = status

/-- A sync saves the record it has read of a user whose row has become manual. -/
def Overwrites (e : Taken ι) : Prop :=
  ∃ userId, SyncSaves (e.before.call e.label.1) e.label.2 userId ∧ HasRow e.before.shared userId true

variable {history : List (Taken ι)} {p : Lib.Pool ι DayRecords Call} {e : Taken ι} {userId : Nat}
  {status : AttendanceStatus}

theorem authoritative_concat : Authoritative userId status (history ++ [e]) ↔
    Decides userId status e ∨ ¬ Resets userId e ∧ Authoritative userId status history := by
  unfold Authoritative
  simp only [since_concat]
  constructor
  · rintro ⟨_, ⟨rfl, hdecides⟩ | ⟨hreset, hsince⟩⟩
    · exact .inl hdecides
    · exact .inr ⟨hreset, _, hsince⟩
  · rintro (hdecides | ⟨hreset, other, hsince⟩)
    · exact ⟨e, .inl ⟨rfl, hdecides⟩⟩
    · exact ⟨other, .inr ⟨hreset, hsince⟩⟩

theorem not_authoritative_nil : ¬ Authoritative userId status ([] : List (Taken ι)) := fun ⟨_, hsince⟩ => not_since_nil hsince

variable [DecidableEq ι]

/-- Decisions stand after a step that does not overwrite one. -/
theorem stands_concat {i : ι} {input : Input} {r : DayRecords × Call} (h : Stands history p)
    (hstep : step p.shared (p.call i) input = some r)
    (hkept : ¬ Overwrites (⟨p, (i, input), p.after i r⟩ : Taken ι)) :
    Stands (history ++ [⟨p, (i, input), p.after i r⟩]) (p.after i r) := by
  intro userId status hauthoritative
  rcases authoritative_concat.mp hauthoritative with hdecides | ⟨hreset, hbefore⟩
  · exact row_of_sets hstep hdecides
  · obtain ⟨record, hrow, hmanual, hstatus⟩ := h userId status hbefore
    rcases step_row hstep userId with hsame | ⟨⟨other, hsets⟩, -⟩ | ⟨hrestores | hsync | hnone, -⟩
    · exact ⟨record, hsame.trans hrow, hmanual, hstatus⟩
    · exact absurd (.inl ⟨other, hsets⟩) hreset
    · exact absurd (.inr hrestores) hreset
    · exact absurd ⟨userId, hsync, record, hrow, hmanual⟩ hkept
    · rw [hnone] at hrow
      exact absurd hrow (by simp)

theorem stands_of_run (h : Run (attendanceCalls.interleaved ι) history p) (hkept : ∀ e ∈ history, ¬ Overwrites e) :
    Stands history p := by
  refine Run.invariant (I := Stands) (P := fun e => ¬ Overwrites e) ?_ ?_ h hkept
  · intro a _ userId status hauthoritative
    exact absurd hauthoritative not_authoritative_nil
  · rintro earlier a ⟨i, input⟩ _ _ hstands ⟨r, hr, rfl⟩ hkept
    exact stands_concat hstands hr hkept

/-- A row that a sync has read as not manual, and that is manual, has been decided on. -/
def Decided (history : List (Taken ι)) (p : Lib.Pool ι DayRecords Call) : Prop :=
  ∀ i validTechs existing rest, p.call i = .syncing validTechs existing rest → ∀ userId record,
    existing userId = some record → record.isManualOverride = false → HasRow p.shared userId true →
      ∃ status, Authoritative userId status history

/-- A decision that a manual row keeps. -/
theorem authoritative_step {i : ι} {input : Input} {r : DayRecords × Call}
    (hstep : step p.shared (p.call i) input = some r) (hmanual : HasRow r.1 userId true)
    (h : HasRow p.shared userId true → ∃ status, Authoritative userId status history) :
    ∃ status, Authoritative userId status (history ++ [(⟨p, (i, input), p.after i r⟩ : Taken ι)]) := by
  by_cases hdecides : ∃ status, Decides userId status (⟨p, (i, input), p.after i r⟩ : Taken ι)
  · obtain ⟨status, hdecides⟩ := hdecides
    exact ⟨status, authoritative_concat.mpr (.inl hdecides)⟩
  · have hreset : ¬ Resets userId (⟨p, (i, input), p.after i r⟩ : Taken ι) := by
      rintro (hdecides' | hrestores)
      · exact hdecides hdecides'
      · exact not_hasRow_both hmanual (row_of_restores hstep hrestores)
    have hbefore : HasRow p.shared userId true := by
      rcases step_row hstep userId with hsame | ⟨hsets, -⟩ | ⟨-, hrow⟩
      · obtain ⟨record, hrow, hrecord⟩ := hmanual
        exact ⟨record, hsame.symm.trans hrow, hrecord⟩
      · exact absurd hsets hdecides
      · exact absurd hrow fun hrow => not_hasRow_both hmanual hrow
    obtain ⟨status, hauthoritative⟩ := h hbefore
    exact ⟨status, authoritative_concat.mpr (.inr ⟨hreset, hauthoritative⟩)⟩

theorem decided_of_run (h : Run (attendanceCalls.interleaved ι) history p) : Decided history p := by
  refine Run.invariant (I := Decided) (P := fun _ => True) ?_ ?_ h fun _ _ => ⟨⟩
  · rintro a ⟨-, hidle⟩ i validTechs existing rest hcall
    rw [hidle i] at hcall
    exact absurd hcall (by simp)
  · rintro earlier a ⟨i, input⟩ _ _ hdecided ⟨r, hr, rfl⟩ - j validTechs existing rest hcall userId record hread
      hrecord hmanual
    refine authoritative_step hr hmanual fun hbefore => ?_
    by_cases hj : j = i
    · subst hj
      rw [Pool.after_call] at hcall
      rcases existing_step hr hcall hread with hrow | hrow | ⟨validTechs', before, more, hbegun, hbefore'⟩
      · exact absurd ⟨record, hrow, hrecord⟩ fun hrow => not_hasRow_both hbefore hrow
      · exact absurd hrow fun hrow => not_hasRow_both hmanual hrow
      · exact hdecided j validTechs' before more hbegun userId record hbefore' hrecord hbefore
    · rw [Pool.after_call_of_ne a r hj] at hcall
      exact hdecided j validTechs existing rest hcall userId record hread hrecord hbefore

/-- Decisions stand throughout a run exactly if no sync saves a record that has become manual since it read it. -/
theorem manual_stands_iff (h : Run (attendanceCalls.interleaved ι) history p) :
    (∀ earlier p', earlier <+: history → Run (attendanceCalls.interleaved ι) earlier p' → Stands earlier p') ↔
      ∀ e ∈ history, ¬ Overwrites e := by
  constructor
  · rintro hstands e he ⟨userId, hsync, hmanual⟩
    obtain ⟨first, rest, rfl⟩ := List.append_of_mem he
    obtain ⟨hfirst, hstep, -⟩ := h.around
    obtain ⟨before, ⟨i, input⟩, after⟩ := e
    obtain ⟨r, hr, hafter⟩ := id hstep
    obtain rfl : after = before.after i r := hafter
    obtain ⟨-, validTechs, existing, dtr, more, record, hcall, hturn⟩ := id hsync
    obtain ⟨-, read, hread, hreadManual⟩ := syncTurn_save hturn
    obtain ⟨status, hauthoritative⟩ :=
      decided_of_run hfirst i validTechs existing (dtr :: more) hcall userId read hread hreadManual hmanual
    have hreset : ¬ Resets userId (⟨before, (i, input), before.after i r⟩ : Taken ι) := by
      rintro (⟨_, -, _, _, _, hsetting, -⟩ | ⟨_, _, hrestoring, -⟩)
      · exact absurd (hcall.symm.trans hsetting) (by simp)
      · exact absurd (hcall.symm.trans hrestoring) (by simp)
    obtain ⟨kept, hkept, hkeptManual, -⟩ := hstands _ _ (List.prefix_append_right_inj first |>.mpr (by simp))
      (hfirst.step hstep) userId status (authoritative_concat.mpr (.inr ⟨hreset, hauthoritative⟩))
    exact not_hasRow_both ⟨kept, hkept, hkeptManual⟩ (row_of_syncSaves hr hsync)
  · intro hkept earlier p' hinit hrun
    exact stands_of_run hrun fun e he => hkept e (hinit.subset he)

end

/-! ## A decision during a sync -/

/-- A step that can be taken. -/
def next (p : Lib.Pool Nat DayRecords Call) (i : Nat) (input : Input) : Lib.Pool Nat DayRecords Call :=
  p.after i ((step p.shared (p.call i) input).getD (p.shared, p.call i))

/-- User 7 has clocked in. -/
def morning : Lib.Pool Nat DayRecords Call where
  shared := { row := fun userId => if userId = 7 then some { status := .present, clockInTime := some 28800 } else none }
  call := fun _ => .idle

/-- A sync has read the row of user 7, for whom the DTR view has a later time. -/
def syncBegun : Lib.Pool Nat DayRecords Call :=
  morning.after 0 ({ morning.shared with synced := true },
    .syncing [⟨7, "1042"⟩] (fun userId => if userId ∈ [7] then morning.shared.row userId else none)
      [⟨"1042", some 29400⟩])

def absence : SetAttendanceDto where
  userId := 7
  status := .absent

def absenceRead (p : Lib.Pool Nat DayRecords Call) : Lib.Pool Nat DayRecords Call := next p 1 (.setAttendance absence 3 true)

def absent (p : Lib.Pool Nat DayRecords Call) : Lib.Pool Nat DayRecords Call := next (absenceRead p) 1 .proceed

theorem morning_run : Run (attendanceCalls.interleaved Nat) [] morning := .init ⟨⟨⟩, fun _ => rfl⟩

theorem absence_stands : ∃ history, Run (attendanceCalls.interleaved Nat) history (absent morning) ∧
    Stands history (absent morning) := by
  have hread : (attendanceCalls.interleaved Nat).step morning (1, .setAttendance absence 3 true) (absenceRead morning) :=
    ⟨_, rfl, rfl⟩
  have hsaved : (attendanceCalls.interleaved Nat).step (absenceRead morning) (1, .proceed) (absent morning) :=
    ⟨_, rfl, rfl⟩
  have hrun := (morning_run.step hread).step hsaved
  refine ⟨_, hrun, (manual_stands_iff hrun).mpr ?_ _ _ (List.prefix_refl _) hrun⟩
  intro e he
  rw [List.nil_append, List.mem_append, List.mem_singleton, List.mem_singleton] at he
  rintro ⟨userId, ⟨-, _, _, _, _, _, hsyncing, -⟩, -⟩
  rcases he with rfl | rfl
  · exact absurd hsyncing (by simp [morning])
  · exact absurd hsyncing (by simp [absenceRead, next, step, begins, morning, absence])

/-- An absence that is set while a sync has read the record is taken back by its save. -/
theorem absence_overwritten : ∃ history p, Run (attendanceCalls.interleaved Nat) history p ∧ ¬ Stands history p := by
  have hsync : (attendanceCalls.interleaved Nat).step morning
      (0, .syncAttendanceWithDTR true [⟨7, "1042"⟩] [⟨"1042", some 29400⟩]) syncBegun := by
    refine ⟨_, ?_, rfl⟩
    simp [attendanceCalls, step, begins, chronological, morning]
  have hread : (attendanceCalls.interleaved Nat).step syncBegun (1, .setAttendance absence 3 true)
      (absenceRead syncBegun) := ⟨_, rfl, rfl⟩
  have hsaved : (attendanceCalls.interleaved Nat).step (absenceRead syncBegun) (1, .proceed) (absent syncBegun) :=
    ⟨_, rfl, rfl⟩
  have hturn : (attendanceCalls.interleaved Nat).step (absent syncBegun) (0, .proceed)
      (next (absent syncBegun) 0 .proceed) := ⟨_, rfl, rfl⟩
  have hrun := (((morning_run.step hsync).step hread).step hsaved).step hturn
  refine ⟨_, _, hrun, fun hstands => ?_⟩
  have hdecides : Decides 7 .absent (⟨absenceRead syncBegun, (1, .proceed), absent syncBegun⟩ : Taken Nat) := by
    refine ⟨rfl, absence, 3, some { status := .present, clockInTime := some 28800 }, ?_, rfl, rfl, by simp⟩
    show (absenceRead syncBegun).call 1 = _
    rfl
  have hreset : ¬ Resets 7 (⟨absent syncBegun, (0, .proceed), next (absent syncBegun) 0 .proceed⟩ : Taken Nat) := by
    rintro (⟨_, -, _, _, _, hsetting, -⟩ | ⟨_, _, hrestoring, -⟩)
    · exact Call.noConfusion hsetting
    · exact Call.noConfusion hrestoring
  obtain ⟨record, hrow, hmanual, -⟩ := hstands 7 .absent
    (authoritative_concat.mpr (.inr ⟨hreset, authoritative_concat.mpr (.inl hdecides)⟩))
  have hsynced : (next (absent syncBegun) 0 .proceed).shared.row 7 =
      some { status := .present, clockInTime := some 29400, notes := some "Marked present on sync." } := by decide
  rw [hsynced, Option.some.injEq] at hrow
  rw [← hrow] at hmanual
  exact absurd hmanual (by decide)

end ComplianceHub.Tickets.DtrSync
