import ComplianceHub.Lib.OrderedMap
import ComplianceHub.Lib.Rows
import ComplianceHub.Lib.Triple
import ComplianceHub.Users.Accounts

/-!
# Units from the work history

* `Personnel` : users, units and manual overrides; `WorkHistoryRow` : a row of the source;
* `normalizedKey`, `readings`, `sectionsByKey`, `sectionsByStaff` : the two maps of a run;
* `discover`, `outcome`, `settle`, `synchronize` : the run;
* `Safe` : what a run may have done to the users;
* `Quiet` : a user to whom a run would do nothing (`quiet_of_settled`, `loop_quiet`);
* `unit_synchronisation_converges` : every run is safe, and a second one right after changes nothing.

Lower case, the database's comparison of texts, and whether a write to the audit log goes through are parameters. Nobody
else writes during a run.
-/

namespace ComplianceHub.Users.UnitSync

open ComplianceHub.Lib
open ComplianceHub.Tickets (Role)

/-! ## Tables -/

/-- `overrides` holds the users that have a manual override. -/
structure Personnel where
  users : List User
  units : List UnitRow
  overrides : List Nat
  running : Bool := false
  keyed : (users.map (·.id)).Nodup

structure WorkHistoryRow where
  staffId : String
  sectionName : String
deriving DecidableEq, Repr

structure UnitSyncResult where
  discoveredUnits : Nat := 0
  updatedUsers : Nat := 0
  clearedOverrides : Nat := 0
  retainedOverrides : Nat := 0
  skippedAmbiguousStaff : Nat := 0
  skippedRestrictedAssignments : Nat := 0
deriving DecidableEq, Repr

/-- `sameName` and `inStaffIds` compare as the columns do. -/
structure Services where
  enabled : Bool
  ticketUnitSnapshotsReady : Bool
  activeWorkHistory : Option (List WorkHistoryRow)
  toLocaleLowerCase : String → String
  sameName : String → String → Bool
  inStaffIds : String → List String → Bool
  audits : Nat → Bool

abbrev SyncM := EStateM HttpException Personnel

def sourceOrStorageUnavailable : HttpException := .internalServerError "source or storage unavailable"

/-! ## Sections -/

/-- The `length` of a text. -/
def jsLength (text : String) : Nat := (text.toList.map fun c => if c.toNat < 0x10000 then 1 else 2).sum

def normalizeDisplayName (value : String) : String := String.ofList (collapseSpaces (trim value).toList)

section
variable (s : Services)

def normalizedKey (value : String) : String := s.toLocaleLowerCase (normalizeDisplayName value)

structure Reading where
  staffId : String
  sectionName : String
  sectionKey : String
deriving DecidableEq, Repr

/-- A row without a staff id or a section, or with a section of more than 100 characters, is not read. -/
def readRow (row : WorkHistoryRow) : Option Reading :=
  let staffId := trim row.staffId
  let sectionName := normalizeDisplayName row.sectionName
  if staffId = "" ∨ sectionName = "" ∨ 100 < jsLength sectionName then none
  else some { staffId, sectionName, sectionKey := normalizedKey s sectionName }

def readings (rows : List WorkHistoryRow) : List Reading := rows.filterMap (readRow s)

def sectionsByKey (rows : List Reading) : OrderedMap String String :=
  .collect (·.sectionKey) (·.sectionName) (fun _ row => row.sectionName) rows

def sectionsByStaff (rows : List Reading) : OrderedMap String (OrderedMap String String) :=
  .collect (·.staffId) (fun _ => .empty) (fun staffSections row => staffSections.set row.sectionKey row.sectionName) rows

def unitsByKey (units : List UnitRow) : OrderedMap String UnitRow :=
  .collect (normalizedKey s ·.name) id (fun _ unit => unit) units

/-! ## Units -/

def nextUnitId (units : List UnitRow) : Nat := (units.map (·.id)).foldl max 0 + 1

/-- The name of a unit is unique. -/
def createUnit (sectionName : String) : SyncM UnitRow := do
  let created ← reads fun db => do
    check (∀ unit ∈ db.units, s.sameName sectionName unit.name = false) sourceOrStorageUnavailable
    pure { id := nextUnitId db.units, name := sectionName, active := true, hasReportorialRequirements := false : UnitRow }
  modify fun db => { db with units := db.units ++ [created] }
  pure created

/-- The sections that no unit has become units. -/
def discover : List (String × String) → OrderedMap String UnitRow → Nat → SyncM (OrderedMap String UnitRow × Nat)
  | [], byKey, discoveredUnits => pure (byKey, discoveredUnits)
  | (sectionKey, sectionName) :: rest, byKey, discoveredUnits =>
    if (byKey.get sectionKey).isSome then discover rest byKey discoveredUnits
    else do
      let created ← createUnit s sectionName
      discover rest (byKey.set sectionKey created) (discoveredUnits + 1)

end

/-! ## Users -/

/-- The outcomes that write carry the unit that they assign. -/
inductive Outcome where
  | unchanged
  | retained
  | restricted
  | restricted_retained
  | cleared
  | updated (unit : UnitRow)
  | updated_cleared (unit : UnitRow)
deriving DecidableEq, Repr

def staffKey (user : User) : String := trim (user.staffId.getD "null")

def Personnel.managedUser (db : Personnel) (id : Nat) : Option User :=
  db.users.find? fun row => row.id = id && row.active

def Personnel.currentUnit (db : Personnel) (id : Nat) : Option UnitRow :=
  db.units.find? fun row => row.id = id && row.active

def changed (previousUnits : List Nat) (unitId : Nat) : Bool :=
  previousUnits.length ≠ 1 ∨ previousUnits[0]? ≠ some unitId

theorem changed_eq_false {previousUnits : List Nat} {unitId : Nat} :
    changed previousUnits unitId = false ↔ previousUnits = [unitId] := by
  match previousUnits with
  | [] => simp [changed]
  | [_] => simp [changed]
  | _ :: _ :: _ => simp [changed]

def restricted (currentUnit : UnitRow) (role : Role) : Bool :=
  currentUnit.hasReportorialRequirements != decide (role ≠ .user)

theorem restricted_eq_false {currentUnit : UnitRow} {role : Role} :
    restricted currentUnit role = false ↔ (currentUnit.hasReportorialRequirements = true ↔ role ≠ .user) := by
  unfold restricted
  rw [bne_eq_false_iff_eq, Bool.eq_iff_iff, decide_eq_true_iff]

def decideOutcome (manual override changed restricted : Bool) (currentUnit : UnitRow) : Outcome :=
  if override && !manual then .retained
  else if changed && restricted then (if override then .restricted_retained else .restricted)
  else if !changed && !override then .unchanged
  else if changed then (if override then .updated_cleared currentUnit else .updated currentUnit)
  else .cleared

/-- What the transaction of a user decides, from the rows that it reads. -/
def outcome (manual : Bool) (db : Personnel) (user : User) (targetUnit : UnitRow) : Outcome :=
  match db.managedUser user.id with
  | none => .unchanged
  | some managedUser =>
    if staffKey managedUser ≠ staffKey user then .unchanged
    else
      match db.currentUnit targetUnit.id with
      | none => .unchanged
      | some currentUnit =>
        decideOutcome manual (user.id ∈ db.overrides) (changed (managedUser.units.map (·.id)) currentUnit.id)
          (restricted currentUnit managedUser.role) currentUnit

/-- The row of a user with one unit. -/
def assigned (id : Nat) (unit : UnitRow) (row : User) : User := if row.id = id then { row with units := [unit] } else row

@[simp] theorem assigned_id (id : Nat) (unit : UnitRow) (row : User) : (assigned id unit row).id = row.id := by
  unfold assigned
  split <;> rfl

@[simp] theorem assigned_active (id : Nat) (unit : UnitRow) (row : User) :
    (assigned id unit row).active = row.active := by
  unfold assigned
  split <;> rfl

@[simp] theorem assigned_staffId (id : Nat) (unit : UnitRow) (row : User) :
    (assigned id unit row).staffId = row.staffId := by
  unfold assigned
  split <;> rfl

def Personnel.assign (db : Personnel) (id : Nat) (unit : UnitRow) : Personnel :=
  { db with
    users := db.users.map (assigned id unit)
    keyed := by
      have h : (db.users.map (assigned id unit)).map (·.id) = db.users.map (·.id) := by simp
      rw [h]
      exact db.keyed }

def Personnel.clear (db : Personnel) (id : Nat) : Personnel := { db with overrides := db.overrides.filter (· ≠ id) }

def Outcome.write (db : Personnel) (id : Nat) : Outcome → Personnel
  | updated unit => db.assign id unit
  | updated_cleared unit => (db.assign id unit).clear id
  | cleared => db.clear id
  | _ => db

/-- No user and no override is written. -/
def Outcome.quiet : Outcome → Bool
  | unchanged | retained | restricted | restricted_retained => true
  | cleared | updated _ | updated_cleared _ => false

/-- A transaction whose audit entry fails writes nothing. -/
def settle (s : Services) (manual : Bool) (user : User) (targetUnit : UnitRow) : SyncM Outcome := do
  let settled ← reads fun db => do
    let settled := outcome manual db user targetUnit
    check (settled.quiet = true ∨ s.audits user.id = true) sourceOrStorageUnavailable
    pure settled
  modify fun db => settled.write db user.id
  pure settled

def Outcome.count (result : UnitSyncResult) : Outcome → UnitSyncResult
  | unchanged => result
  | retained => { result with retainedOverrides := result.retainedOverrides + 1 }
  | restricted => { result with skippedRestrictedAssignments := result.skippedRestrictedAssignments + 1 }
  | restricted_retained =>
    { result with
      retainedOverrides := result.retainedOverrides + 1
      skippedRestrictedAssignments := result.skippedRestrictedAssignments + 1 }
  | cleared => { result with clearedOverrides := result.clearedOverrides + 1 }
  | updated _ => { result with updatedUsers := result.updatedUsers + 1 }
  | updated_cleared _ =>
    { result with
      clearedOverrides := result.clearedOverrides + 1
      updatedUsers := result.updatedUsers + 1 }

/-- The unit of the only section of a user, where it is active. -/
def targetUnit (byStaff : OrderedMap String (OrderedMap String String)) (byKey : OrderedMap String UnitRow)
    (user : User) : Option UnitRow :=
  match byStaff.get (staffKey user) with
  | none => none
  | some staffSections =>
    match staffSections.entries with
    | [(sectionKey, _)] => (byKey.get sectionKey).filter (·.active)
    | _ => none

def ambiguous (byStaff : OrderedMap String (OrderedMap String String)) (user : User) : Bool :=
  (byStaff.get (staffKey user)).any fun staffSections => 1 < staffSections.entries.length

section
variable (s : Services) (manual : Bool)

def synchronizeUser (byStaff : OrderedMap String (OrderedMap String String)) (byKey : OrderedMap String UnitRow)
    (result : UnitSyncResult) (user : User) : SyncM UnitSyncResult :=
  if ambiguous byStaff user then
    pure { result with skippedAmbiguousStaff := result.skippedAmbiguousStaff + 1 }
  else
    match targetUnit byStaff byKey user with
    | none => pure result
    | some target => do
      let settled ← settle s manual user target
      pure (settled.count result)

/-- Without a staff id nobody is looked for. -/
def activeUsers (byStaff : OrderedMap String (OrderedMap String String)) (db : Personnel) : List User :=
  if byStaff.entries = [] then []
  else db.users.filter fun user =>
    user.active && user.staffId.any fun staffId => s.inStaffIds staffId (byStaff.entries.map Prod.fst)

def loadActiveWorkHistory : Except HttpException (List WorkHistoryRow) :=
  if s.ticketUnitSnapshotsReady then
    match s.activeWorkHistory with
    | some rows => .ok rows
    | none => .error sourceOrStorageUnavailable
  else .error sourceOrStorageUnavailable

def synchronizeRows : SyncM UnitSyncResult := do
  let rows ← reads fun _ => loadActiveWorkHistory s
  let existingUnits ← reads fun db => .ok db.units
  let (byKey, discoveredUnits) ← discover s (sectionsByKey (readings s rows)).entries (unitsByKey s existingUnits) 0
  let byStaff := sectionsByStaff (readings s rows)
  let users ← reads fun db => .ok (activeUsers s byStaff db)
  users.foldlM (synchronizeUser s manual byStaff byKey) { discoveredUnits }

def synchronize : SyncM UnitSyncResult := do
  let running ← reads fun db => .ok db.running
  if !manual && !s.enabled then pure {}
  else if running then
    if manual then
      throw (.conflict "Unit synchronization is already running. Wait for it to finish before trying again.")
    else pure {}
  else
    modify fun db => { db with running := true }
    let done ← attempt (synchronizeRows s manual)
    modify fun db => { db with running := false }
    match done with
    | .ok result => pure result
    | .error _ =>
      throw (.serviceUnavailable ("Unit synchronization could not complete. Some earlier changes may have been saved. " ++
        "Refresh the user list and check the UMS connection before trying again."))

end

/-! ## Sections of a staff id -/

section
variable {s : Services} {rows : List Reading} {row : Reading} {k : String}

/-- Rows of a staff id for two sections that have not the same key. -/
def TwoSections (rows : List Reading) (staffId : String) : Prop :=
  ∃ a ∈ rows, ∃ b ∈ rows, a.staffId = staffId ∧ b.staffId = staffId ∧ a.sectionKey ≠ b.sectionKey

abbrev addSection (o : Option (OrderedMap String String)) (row : Reading) : Option (OrderedMap String String) :=
  some ((o.getD .empty).set row.sectionKey row.sectionName)

/-- A section that stands there stays. -/
theorem section_stays : ∀ (rows : List Reading) (o : Option (OrderedMap String String)),
    (∃ m, o = some m ∧ (m.get k).isSome = true) → ∃ m, rows.foldl addSection o = some m ∧ (m.get k).isSome = true
  | [], _, h => h
  | row :: rows, o, h => by
    obtain ⟨m, rfl, hm⟩ := h
    refine section_stays rows _ ⟨_, rfl, ?_⟩
    rw [OrderedMap.get_set]
    split
    · rfl
    · exact hm

theorem section_of_mem : ∀ (rows : List Reading) (o : Option (OrderedMap String String)), row ∈ rows →
    ∃ m, rows.foldl addSection o = some m ∧ (m.get row.sectionKey).isSome = true
  | first :: rows, o, h => by
    rcases List.mem_cons.mp h with rfl | h
    · refine section_stays rows _ ⟨_, rfl, ?_⟩
      rw [OrderedMap.get_set, if_pos rfl]
      rfl
    · exact section_of_mem rows _ h

theorem one_lt_length {m : OrderedMap String String} {k k' : String} (hk : (m.get k).isSome = true)
    (hk' : (m.get k').isSome = true) (hne : k ≠ k') : 1 < m.entries.length := by
  obtain ⟨v, hv⟩ := Option.isSome_iff_exists.mp hk
  obtain ⟨v', hv'⟩ := Option.isSome_iff_exists.mp hk'
  rw [← OrderedMap.mem_entries_iff] at hv hv'
  by_contra hshort
  have hsame : (k, v) = (k', v') := by
    match hentries : m.entries with
    | [] => simp [hentries] at hv
    | [entry] => rw [hentries, List.mem_singleton] at hv hv'; exact hv.trans hv'.symm
    | _ :: _ :: _ => simp [hentries] at hshort
  exact hne (congrArg Prod.fst hsame)

/-- Two sections make a staff id ambiguous. -/
theorem ambiguous_of_twoSections {user : User} (h : TwoSections rows (staffKey user)) :
    ambiguous (sectionsByStaff rows) user = true := by
  obtain ⟨a, ha, b, hb, hastaff, hbstaff, hne⟩ := h
  have hget : (sectionsByStaff rows).get (staffKey user) =
      (rows.filter fun row => row.staffId = staffKey user).foldl addSection none := OrderedMap.get_collect rows _
  have hmem (row : Reading) (hrow : row ∈ rows) (hstaff : row.staffId = staffKey user) :
      row ∈ rows.filter fun row => row.staffId = staffKey user :=
    List.mem_filter.mpr ⟨hrow, decide_eq_true hstaff⟩
  obtain ⟨m, hm, hak⟩ := section_of_mem _ none (hmem a ha hastaff)
  obtain ⟨m', hm', hbk⟩ := section_of_mem _ none (hmem b hb hbstaff)
  obtain rfl : m = m' := Option.some.inj (hm.symm.trans hm')
  unfold ambiguous
  rw [hget, hm]
  exact decide_eq_true (one_lt_length hak hbk hne)

end

/-! ## Safety -/

section
variable {s : Services} {manual : Bool} {db₀ db db' : Personnel} {user : User} {target unit : UnitRow}

/-- What a run that started with `db₀` may have done. -/
structure Safe (manual : Bool) (rows : List Reading) (db₀ db : Personnel) : Prop where
  overridden : manual = false → ∀ user ∈ db₀.users, user.id ∈ db₀.overrides → user ∈ db.users ∧ user.id ∈ db.overrides
  assigned : ∀ row ∈ db.users, ∃ user ∈ db₀.users, row = user ∨ ∃ unit ∈ db.units,
    row = { user with units := [unit] } ∧ unit.active = true ∧ (unit.hasReportorialRequirements = true ↔ user.role ≠ .user)
  ambiguous : ∀ user ∈ db₀.users, TwoSections rows (staffKey user) →
    user ∈ db.users ∧ (user.id ∈ db.overrides ↔ user.id ∈ db₀.overrides)

theorem safe_of_users {rows : List Reading} (husers : db.users = db₀.users) (hoverrides : db.overrides = db₀.overrides) :
    Safe manual rows db₀ db where
  overridden _ _ huser hid := ⟨husers ▸ huser, hoverrides ▸ hid⟩
  assigned row hrow := ⟨row, husers ▸ hrow, .inl rfl⟩
  ambiguous _ huser _ := ⟨husers ▸ huser, hoverrides ▸ Iff.rfl⟩

theorem managedUser_spec {id : Nat} (h : db.managedUser id = some user) :
    user ∈ db.users ∧ user.id = id ∧ user.active = true := by
  have hfound := List.find?_some h
  simp only [Bool.and_eq_true, decide_eq_true_eq] at hfound
  exact ⟨List.mem_of_find?_eq_some h, hfound⟩

theorem currentUnit_spec {id : Nat} (h : db.currentUnit id = some unit) :
    unit ∈ db.units ∧ unit.id = id ∧ unit.active = true := by
  have hfound := List.find?_some h
  simp only [Bool.and_eq_true, decide_eq_true_eq] at hfound
  exact ⟨List.mem_of_find?_eq_some h, hfound⟩

/-- The outcomes that write. -/
theorem decideOutcome_spec {override changed restricted : Bool}
    (h : (decideOutcome manual override changed restricted unit).quiet = false) :
    (override = false ∨ manual = true) ∧
      (decideOutcome manual override changed restricted unit = .cleared ∧ changed = false ∨
        restricted = false ∧ (decideOutcome manual override changed restricted unit = .updated unit ∧ override = false ∨
          decideOutcome manual override changed restricted unit = .updated_cleared unit)) := by
  revert h
  cases manual <;> cases override <;> cases changed <;> cases restricted <;> simp [decideOutcome, Outcome.quiet]

/-- An outcome that writes, and the rows that it was decided from. -/
theorem outcome_spec (h : (outcome manual db user target).quiet = false) : ∃ managedUser currentUnit,
    db.managedUser user.id = some managedUser ∧ db.currentUnit target.id = some currentUnit ∧
      (user.id ∉ db.overrides ∨ manual = true) ∧
      (outcome manual db user target = .cleared ∧ managedUser.units.map (·.id) = [currentUnit.id] ∨
        (currentUnit.hasReportorialRequirements = true ↔ managedUser.role ≠ .user) ∧
          (outcome manual db user target = .updated currentUnit ∧ user.id ∉ db.overrides ∨
            outcome manual db user target = .updated_cleared currentUnit)) := by
  generalize hsettled : outcome manual db user target = settled at h ⊢
  unfold outcome at hsettled
  split at hsettled
  · subst hsettled
    cases h
  · rename_i managedUser hmanaged
    split_ifs at hsettled
    · subst hsettled
      cases h
    · split at hsettled
      · subst hsettled
        cases h
      · rename_i currentUnit hcurrent
        refine ⟨managedUser, currentUnit, hmanaged, hcurrent, ?_⟩
        subst hsettled
        simpa [changed_eq_false, restricted_eq_false] using decideOutcome_spec h

theorem outcome_retains (hmanual : manual = false) (h : user.id ∈ db.overrides) :
    (outcome manual db user target).quiet = true := by
  by_contra hwrites
  obtain ⟨_, _, _, _, hfree, _⟩ := outcome_spec (Bool.eq_false_of_not_eq_true hwrites)
  rcases hfree with hfree | hfree
  · exact hfree h
  · exact absurd (hmanual.symm.trans hfree) Bool.false_ne_true

/-- A user who has that unit and no override is left alone. -/
theorem outcome_unchanged {managedUser : User} (hmanaged : db.managedUser user.id = some managedUser)
    (hcurrent : db.currentUnit target.id = some unit) (hunits : managedUser.units.map (·.id) = [unit.id])
    (hoverride : user.id ∉ db.overrides) : outcome manual db user target = .unchanged := by
  unfold outcome
  simp [hmanaged, hcurrent, hoverride, changed_eq_false.mpr hunits, decideOutcome]

@[simp] theorem write_units (settled : Outcome) (id : Nat) : (settled.write db id).units = db.units := by
  cases settled <;> rfl

@[simp] theorem write_running (settled : Outcome) (id : Nat) : (settled.write db id).running = db.running := by
  cases settled <;> rfl

theorem write_of_quiet {settled : Outcome} (h : settled.quiet = true) (id : Nat) : settled.write db id = db := by
  cases settled with
  | unchanged => rfl
  | retained => rfl
  | restricted => rfl
  | restricted_retained => rfl
  | cleared => cases h
  | updated unit => cases h
  | updated_cleared unit => cases h

/-- Other users keep their rows. -/
theorem mem_write_of_ne {settled : Outcome} {id : Nat} (huser : user ∈ db.users) (hne : user.id ≠ id) :
    user ∈ (settled.write db id).users := by
  have hassigned (unit : UnitRow) : user ∈ (db.assign id unit).users :=
    List.mem_map.mpr ⟨user, huser, by unfold assigned; rw [if_neg hne]⟩
  cases settled with
  | updated unit => exact hassigned unit
  | updated_cleared unit => exact hassigned unit
  | _ => exact huser

theorem mem_overrides_write_of_ne {settled : Outcome} {id other : Nat} (hne : other ≠ id) :
    other ∈ (settled.write db id).overrides ↔ other ∈ db.overrides := by
  have hcleared : other ∈ db.overrides.filter (· ≠ id) ↔ other ∈ db.overrides := by simp [hne]
  cases settled with
  | cleared => exact hcleared
  | updated_cleared unit => exact hcleared
  | _ => exact Iff.rfl

/-- A row is what it was, or has got the unit that the outcome carries. -/
theorem mem_write {settled : Outcome} {id : Nat} {row : User} (h : row ∈ (settled.write db id).users) :
    row ∈ db.users ∨ ∃ unit, (settled = .updated unit ∨ settled = .updated_cleared unit) ∧
      ∃ old ∈ db.users, old.id = id ∧ row = { old with units := [unit] } := by
  have hassigned (unit : UnitRow) (hrow : row ∈ (db.assign id unit).users) :
      row ∈ db.users ∨ ∃ old ∈ db.users, old.id = id ∧ row = { old with units := [unit] } := by
    obtain ⟨old, hold, rfl⟩ := List.mem_map.mp hrow
    unfold assigned
    split
    · rename_i hid
      exact .inr ⟨old, hold, hid, rfl⟩
    · exact .inl hold
  cases settled with
  | updated unit => exact (hassigned unit h).imp_right fun hold => ⟨unit, .inl rfl, hold⟩
  | updated_cleared unit => exact (hassigned unit h).imp_right fun hold => ⟨unit, .inr rfl, hold⟩
  | _ => exact .inl h

theorem outcome_assigns (h : outcome manual db user target = .updated unit ∨
    outcome manual db user target = .updated_cleared unit) : ∃ managedUser, db.managedUser user.id = some managedUser ∧
      db.currentUnit target.id = some unit ∧ (unit.hasReportorialRequirements = true ↔ managedUser.role ≠ .user) := by
  have hwrites : (outcome manual db user target).quiet = false := by
    rcases h with h | h <;> rw [h] <;> rfl
  obtain ⟨managedUser, currentUnit, hmanaged, hcurrent, -, hcleared | ⟨hrole, hassigned⟩⟩ := outcome_spec hwrites
  · rcases h with h | h <;> cases h.symm.trans hcleared.1
  · have hunit : currentUnit = unit := by
      rcases h with h | h <;> rcases hassigned with ⟨hassigned, -⟩ | hassigned <;> cases hassigned.symm.trans h <;> rfl
    exact ⟨managedUser, hmanaged, hunit ▸ hcurrent, hunit ▸ hrole⟩

/-- Settling a user who is not ambiguous is safe. -/
theorem safe_write {rows : List Reading} (hsafe : Safe manual rows db₀ db) (huser : user ∈ db₀.users)
    (hsections : ¬ TwoSections rows (staffKey user)) :
    Safe manual rows db₀ ((outcome manual db user target).write db user.id) where
  overridden hmanual other hother hid := by
    obtain ⟨hrow, hoverride⟩ := hsafe.overridden hmanual other hother hid
    by_cases heq : other.id = user.id
    · rw [write_of_quiet (outcome_retains hmanual (heq ▸ hoverride))]
      exact ⟨hrow, hoverride⟩
    · exact ⟨mem_write_of_ne hrow heq, (mem_overrides_write_of_ne heq).mpr hoverride⟩
  assigned row hrow := by
    rw [write_units]
    rcases mem_write hrow with hrow | ⟨unit, hassigns, old, hold, hid, rfl⟩
    · exact hsafe.assigned row hrow
    · obtain ⟨managedUser, hmanaged, hcurrent, hrole⟩ := outcome_assigns hassigns
      obtain ⟨hmem, hmanagedId, _⟩ := managedUser_spec hmanaged
      obtain ⟨hunit, _, hactive⟩ := currentUnit_spec hcurrent
      obtain rfl : old = managedUser := List.inj_on_of_nodup_map db.keyed hold hmem (hid.trans hmanagedId.symm)
      obtain ⟨first, hfirst, hsame⟩ := hsafe.assigned old hold
      refine ⟨first, hfirst, .inr ⟨unit, hunit, ?_, hactive, ?_⟩⟩
      · rcases hsame with rfl | ⟨_, _, rfl, _⟩ <;> rfl
      · rcases hsame with rfl | ⟨_, _, rfl, _⟩ <;> exact hrole
  ambiguous other hother htwo := by
    have hne : other.id ≠ user.id := fun heq =>
      hsections (List.inj_on_of_nodup_map db₀.keyed hother huser heq ▸ htwo)
    obtain ⟨hrow, hoverride⟩ := hsafe.ambiguous other hother htwo
    exact ⟨mem_write_of_ne hrow hne, (mem_overrides_write_of_ne hne).trans hoverride⟩

/-- The rows that a run reads. -/
def Services.workHistory (s : Services) : List Reading := readings s (s.activeWorkHistory.getD [])

theorem loadActiveWorkHistory_spec {rows : List WorkHistoryRow} (h : loadActiveWorkHistory s = .ok rows) :
    readings s rows = s.workHistory := by
  unfold loadActiveWorkHistory at h
  unfold Services.workHistory
  split at h
  · split at h
    · rename_i hrows
      cases h
      rw [hrows]
      rfl
    · cases h
  · cases h

/-- Neither the users nor their overrides. -/
def SameUsers (db₀ db : Personnel) : Prop := db.users = db₀.users ∧ db.overrides = db₀.overrides

theorem keeps_createUnit (sectionName : String) : Keeps (SameUsers db₀) (createUnit s sectionName) :=
  Keeps.reads_bind fun _ => triple_bind (triple_modify fun _ h => h) fun _ => triple_pure fun _ h => h

theorem keeps_discover : ∀ (sections : List (String × String)) (byKey : OrderedMap String UnitRow) (n : Nat),
    Keeps (SameUsers db₀) (discover s sections byKey n)
  | [], _, _ => triple_pure fun _ h => h
  | (sectionKey, sectionName) :: rest, byKey, n => by
    unfold discover
    split
    · exact keeps_discover rest byKey n
    · exact triple_bind (keeps_createUnit sectionName) fun _ => keeps_discover rest _ _

theorem keeps_synchronizeUser {byKey : OrderedMap String UnitRow} {result : UnitSyncResult} (huser : user ∈ db₀.users) :
    Keeps (Safe manual s.workHistory db₀)
      (synchronizeUser s manual (sectionsByStaff s.workHistory) byKey result user) := by
  unfold synchronizeUser
  split
  · exact triple_pure fun _ h => h
  · rename_i hambiguous
    have hsections : ¬ TwoSections s.workHistory (staffKey user) := fun htwo =>
      hambiguous (ambiguous_of_twoSections htwo)
    split
    · exact triple_pure fun _ h => h
    · rename_i target _
      refine triple_bind (Q := fun _ => Safe manual s.workHistory db₀) ?_ fun _ => triple_pure fun _ h => h
      unfold settle
      refine triple_bind (Q := fun settled db => Safe manual s.workHistory db₀ (settled.write db user.id))
        (triple_reads (fun db settled hsafe hread => ?_) fun _ hsafe => hsafe)
        fun _ => triple_bind (triple_modify fun _ hsafe => hsafe) fun _ => triple_pure fun _ hsafe => hsafe
      obtain ⟨_, _, hsettled⟩ := bind_eq_ok.mp hread
      obtain rfl := Except.ok.inj hsettled
      exact safe_write hsafe huser hsections

theorem mem_activeUsers {byStaff : OrderedMap String (OrderedMap String String)} :
    user ∈ activeUsers s byStaff db ↔ user ∈ db.users ∧ byStaff.entries ≠ [] ∧
      (user.active && user.staffId.any fun staffId => s.inStaffIds staffId (byStaff.entries.map Prod.fst)) = true := by
  unfold activeUsers
  split
  · simp [*]
  · rw [List.mem_filter]
    exact and_congr_right fun _ => (and_iff_right ‹_›).symm

theorem synchronizeRows_safe :
    Triple (SameUsers db₀) (synchronizeRows s manual) (fun _ => Safe manual s.workHistory db₀)
      (Safe manual s.workHistory db₀) := by
  have hsame : ∀ db, SameUsers db₀ db → Safe manual s.workHistory db₀ db := fun _ h => safe_of_users h.1 h.2
  unfold synchronizeRows
  refine triple_bind (Q := fun rows db => readings s rows = s.workHistory ∧ SameUsers db₀ db)
    (triple_reads (fun _ _ h hread => ⟨loadActiveWorkHistory_spec hread, h⟩) hsame) fun rows => ?_
  refine triple_bind (Q := fun _ db => readings s rows = s.workHistory ∧ SameUsers db₀ db)
    (triple_reads (fun _ _ h _ => h) fun _ h => hsame _ h.2) fun existingUnits => ?_
  refine triple_bind (Q := fun _ db => readings s rows = s.workHistory ∧ SameUsers db₀ db)
    (fun db h => ?_) fun (byKey, discoveredUnits) => ?_
  · have hkept : Keeps (SameUsers db₀)
        (discover s (sectionsByKey (readings s rows)).entries (unitsByKey s existingUnits) 0) := keeps_discover _ _ _
    have hkept := hkept db h.2
    revert hkept
    cases discover s (sectionsByKey (readings s rows)).entries (unitsByKey s existingUnits) 0 db with
    | ok a db' => exact fun hkept => ⟨h.1, hkept⟩
    | error e db' => exact fun hkept => hsame db' hkept
  · refine triple_bind (Q := fun users db => (readings s rows = s.workHistory ∧ SameUsers db₀ db) ∧
        ∀ user ∈ users, user ∈ db₀.users)
      (triple_reads (fun db users h hread => ⟨h, ?_⟩) fun _ h => hsame _ h.2) fun users db h => ?_
    · obtain rfl := Except.ok.inj hread
      exact fun user huser => h.2.1 ▸ (mem_activeUsers.mp huser).1
    · obtain ⟨⟨hrows, husers⟩, hmem⟩ := h
      rw [hrows]
      exact Keeps.foldlM_mem (fun _ user huser => keeps_synchronizeUser (hmem user huser)) _ db (hsame db husers)

/-- Whatever becomes of a run, what it has done is safe. -/
theorem synchronize_safe (s : Services) (manual : Bool) (db : Personnel) :
    Safe manual s.workHistory db (leaves (synchronize s manual) db) := by
  have hsame : ∀ db', SameUsers db db' → Safe manual s.workHistory db db' := fun _ h => safe_of_users h.1 h.2
  have hstop (safe : Personnel → Prop) : ∀ e : HttpException, Triple safe (throw e : SyncM UnitSyncResult) (fun _ => safe) safe :=
    fun _ _ h => h
  refine Triple.leaves (P := SameUsers db) ?_ ⟨rfl, rfl⟩
  unfold synchronize
  refine triple_bind (Q := fun _ => SameUsers db) (triple_reads (fun _ _ h _ => h) hsame) fun running => ?_
  split
  · exact triple_pure hsame
  · split
    · split
      · exact fun db' h => hsame db' h
      · exact triple_pure hsame
    · refine triple_bind (Q := fun _ => SameUsers db) (triple_modify fun _ h => h) fun _ => ?_
      refine triple_bind (Q := fun _ => Safe manual s.workHistory db) (triple_attempt synchronizeRows_safe) fun done => ?_
      refine triple_bind (Q := fun _ => Safe manual s.workHistory db)
        (triple_modify fun _ h => ⟨h.overridden, h.assigned, h.ambiguous⟩) fun _ => ?_
      cases done with
      | ok result => exact triple_pure fun _ h => h
      | error e => exact fun _ h => h

/-! ## Convergence -/

theorem outcome_congr {user' : User} (hid : user.id = user'.id) (hstaff : user.staffId = user'.staffId)
    (hmanaged : db.managedUser user'.id = db'.managedUser user'.id) (hunits : db.units = db'.units)
    (hoverrides : user'.id ∈ db.overrides ↔ user'.id ∈ db'.overrides) :
    outcome manual db user target = outcome manual db' user' target := by
  unfold outcome Personnel.currentUnit staffKey
  rw [hid, hstaff, hmanaged, hunits, decide_eq_decide.mpr hoverrides]

theorem managedUser_assign (id other : Nat) : (db.assign id unit).managedUser other =
    (db.managedUser other).map (assigned id unit) := by
  unfold Personnel.managedUser Personnel.assign
  rw [List.find?_map]
  simp [Function.comp_def]

theorem managedUser_write_of_ne {settled : Outcome} {id other : Nat} (hne : other ≠ id) :
    (settled.write db id).managedUser other = db.managedUser other := by
  have hassigned (unit : UnitRow) : (db.assign id unit).managedUser other = db.managedUser other := by
    rw [managedUser_assign]
    cases hmanaged : db.managedUser other with
    | none => rfl
    | some managedUser =>
      have hid := (managedUser_spec hmanaged).2.1
      show some (assigned id unit managedUser) = some managedUser
      unfold assigned
      rw [if_neg (hid ▸ hne)]
  cases settled with
  | updated unit => exact hassigned unit
  | updated_cleared unit => exact hassigned unit
  | _ => rfl

theorem currentUnit_write (settled : Outcome) (id unitId : Nat) :
    (settled.write db id).currentUnit unitId = db.currentUnit unitId := by
  unfold Personnel.currentUnit
  rw [write_units]

/-- A user who has been settled has nothing more to be written. -/
theorem quiet_of_settled :
    (outcome manual ((outcome manual db user target).write db user.id) user target).quiet = true := by
  cases hquiet : (outcome manual db user target).quiet with
  | true => rw [write_of_quiet hquiet, hquiet]
  | false =>
    obtain ⟨managedUser, currentUnit, hmanaged, hcurrent, -, hwrites⟩ := outcome_spec hquiet
    have hid := (managedUser_spec hmanaged).2.1
    have hrow : assigned user.id currentUnit managedUser = { managedUser with units := [currentUnit] } := by
      unfold assigned
      rw [if_pos hid]
    have hnone : user.id ∉ (db.clear user.id).overrides := by simp [Personnel.clear]
    have hmanagedAfter : (db.assign user.id currentUnit).managedUser user.id =
        some { managedUser with units := [currentUnit] } := by
      rw [managedUser_assign, hmanaged, Option.map_some, hrow]
    have hcurrentAfter (settled : Outcome) : (settled.write db user.id).currentUnit target.id = some currentUnit := by
      rw [currentUnit_write, hcurrent]
    have hunchanged : outcome manual ((outcome manual db user target).write db user.id) user target = .unchanged := by
      rcases hwrites with ⟨hcleared, hunits⟩ | ⟨_, ⟨hupdated, hfree⟩ | hupdated⟩
      · rw [hcleared]
        exact outcome_unchanged hmanaged (hcurrentAfter .cleared) hunits hnone
      · rw [hupdated]
        exact outcome_unchanged hmanagedAfter (hcurrentAfter (.updated currentUnit)) rfl hfree
      · rw [hupdated]
        exact outcome_unchanged hmanagedAfter (hcurrentAfter (.updated_cleared currentUnit)) rfl hnone
    rw [hunchanged]
    rfl

section
variable {byStaff : OrderedMap String (OrderedMap String String)} {byKey : OrderedMap String UnitRow}

/-- A run would write nothing about the user. -/
def Quiet (manual : Bool) (byStaff : OrderedMap String (OrderedMap String String)) (byKey : OrderedMap String UnitRow)
    (db : Personnel) (user : User) : Prop :=
  ambiguous byStaff user = false → ∀ target, targetUnit byStaff byKey user = some target →
    (outcome manual db user target).quiet = true

theorem Quiet.write {other : User} (h : Quiet manual byStaff byKey db other) (settled : Outcome) {id : Nat}
    (hne : other.id ≠ id) : Quiet manual byStaff byKey (settled.write db id) other := by
  intro hclear target' htarget
  rw [outcome_congr rfl rfl (managedUser_write_of_ne hne) (write_units settled id) (mem_overrides_write_of_ne hne)]
  exact h hclear target' htarget

/-- The keys of the users that a run looks at do not change. -/
def accountKeys (db : Personnel) : List (Nat × Bool × Option String) :=
  db.users.map fun user => (user.id, user.active, user.staffId)

theorem accountKeys_write (settled : Outcome) (id : Nat) : accountKeys (settled.write db id) = accountKeys db := by
  have hassigned (unit : UnitRow) : accountKeys (db.assign id unit) = accountKeys db := by
    simp [accountKeys, Personnel.assign]
  cases settled with
  | updated unit => exact hassigned unit
  | updated_cleared unit => exact hassigned unit
  | _ => rfl

/-- What a completed turn has done. -/
theorem turn_spec {result result' : UnitSyncResult}
    (h : synchronizeUser s manual byStaff byKey result user db = .ok result' db') :
    ∃ settled : Outcome, db' = settled.write db user.id ∧ Quiet manual byStaff byKey db' user := by
  unfold synchronizeUser at h
  split at h
  · rename_i hambiguous
    obtain ⟨_, rfl⟩ := returns_pure.mp h
    exact ⟨.unchanged, rfl, fun hclear => absurd (hambiguous.symm.trans hclear) (by decide)⟩
  · cases htarget : targetUnit byStaff byKey user with
    | none =>
      rw [htarget] at h
      obtain ⟨_, rfl⟩ := returns_pure.mp h
      exact ⟨.unchanged, rfl, fun _ target' htarget' => absurd (htarget.symm.trans htarget') (by simp)⟩
    | some target =>
      rw [htarget] at h
      obtain ⟨settled, db'', hsettle, hcount⟩ := returns_bind.mp h
      obtain ⟨_, rfl⟩ := returns_pure.mp hcount
      unfold settle at hsettle
      obtain ⟨decided, _, hread, hwrites⟩ := returns_bind.mp hsettle
      obtain ⟨hread, rfl⟩ := returns_reads.mp hread
      obtain ⟨_, _, hwrite, hdone⟩ := returns_bind.mp hwrites
      obtain ⟨rfl, rfl⟩ := returns_pure.mp hdone
      obtain rfl := returns_modify.mp hwrite
      obtain ⟨_, _, hdecided⟩ := bind_eq_ok.mp hread
      obtain rfl := Except.ok.inj hdecided
      refine ⟨_, rfl, fun _ target' htarget' => ?_⟩
      obtain rfl : target = target' := Option.some.inj (htarget.symm.trans htarget')
      exact quiet_of_settled

/-- The loop leaves every user quiet whom it comes to, and the others as they were. -/
theorem loop_spec : ∀ (users : List User) {result result' : UnitSyncResult} {db db' : Personnel},
    (users.map (·.id)).Nodup → users.foldlM (synchronizeUser s manual byStaff byKey) result db = .ok result' db' →
    db'.units = db.units ∧ db'.running = db.running ∧ accountKeys db' = accountKeys db ∧
      (∀ user, user.id ∉ users.map (·.id) → Quiet manual byStaff byKey db user → Quiet manual byStaff byKey db' user) ∧
      ∀ user ∈ users, Quiet manual byStaff byKey db' user
  | [], _, _, db, db', _, h => by
    obtain ⟨_, rfl⟩ := returns_pure.mp h
    exact ⟨rfl, rfl, rfl, fun _ _ hquiet => hquiet, by simp⟩
  | user :: users, _, _, db, db', hids, h => by
    obtain ⟨huser, hrestIds⟩ := List.nodup_cons.mp hids
    rw [List.foldlM_cons] at h
    obtain ⟨_, dbTurn, hturn, hrest⟩ := returns_bind.mp h
    obtain ⟨settled, rfl, hquiet⟩ := turn_spec hturn
    obtain ⟨hunits, hrunning, hkeys, hstays, hall⟩ := loop_spec users hrestIds hrest
    refine ⟨hunits.trans (write_units settled user.id), hrunning.trans (write_running settled user.id),
      hkeys.trans (accountKeys_write settled user.id), fun other hother hbefore => ?_, fun other hother => ?_⟩
    · obtain ⟨hne, hother⟩ := not_or.mp (List.mem_cons.not.mp hother)
      exact hstays other hother (hbefore.write settled hne)
    · rcases List.mem_cons.mp hother with rfl | hother
      · exact hstays other huser hquiet
      · exact hall other hother

/-- Over quiet users the loop writes nothing. -/
theorem loop_quiet : ∀ (users : List User) (result : UnitSyncResult), (∀ user ∈ users, Quiet manual byStaff byKey db user) →
    ∃ result', users.foldlM (synchronizeUser s manual byStaff byKey) result db = .ok result' db ∧
      result'.discoveredUnits = result.discoveredUnits ∧ result'.updatedUsers = result.updatedUsers ∧
      result'.clearedOverrides = result.clearedOverrides
  | [], result, _ => ⟨result, rfl, rfl, rfl, rfl⟩
  | user :: users, result, h => by
    have hturn : ∃ next, synchronizeUser s manual byStaff byKey result user db = .ok next db ∧
        next.discoveredUnits = result.discoveredUnits ∧ next.updatedUsers = result.updatedUsers ∧
        next.clearedOverrides = result.clearedOverrides := by
      unfold synchronizeUser
      cases hambiguous : ambiguous byStaff user with
      | true => exact ⟨_, rfl, rfl, rfl, rfl⟩
      | false =>
        cases htarget : targetUnit byStaff byKey user with
        | none => exact ⟨_, rfl, rfl, rfl, rfl⟩
        | some target =>
          have hquiet := h user List.mem_cons_self hambiguous target htarget
          refine ⟨(outcome manual db user target).count result, ?_, ?_⟩
          · refine returns_bind.mpr ⟨outcome manual db user target, db, ?_, rfl⟩
            refine returns_bind.mpr ⟨outcome manual db user target, db, returns_reads.mpr ⟨?_, rfl⟩, ?_⟩
            · exact bind_eq_ok.mpr ⟨(), check_eq_ok.mpr (.inl hquiet), rfl⟩
            · exact returns_bind.mpr ⟨⟨⟩, db, returns_modify.mpr (write_of_quiet hquiet user.id).symm, rfl⟩
          · revert hquiet
            cases outcome manual db user target <;> simp [Outcome.quiet, Outcome.count]
    obtain ⟨next, hnext, hdiscovered, hupdated, hcleared⟩ := hturn
    obtain ⟨result', hrest, hdiscovered', hupdated', hcleared'⟩ :=
      loop_quiet users next fun other hother => h other (List.mem_cons_of_mem _ hother)
    refine ⟨result', ?_, hdiscovered'.trans hdiscovered, hupdated'.trans hupdated, hcleared'.trans hcleared⟩
    rw [List.foldlM_cons]
    exact returns_bind.mpr ⟨next, db, hnext, hrest⟩

end

/-! ## Discovered units -/

theorem unitsByKey_concat (units : List UnitRow) (unit : UnitRow) :
    unitsByKey s (units ++ [unit]) = (unitsByKey s units).set (normalizedKey s unit.name) unit := by
  unfold unitsByKey OrderedMap.collect
  rw [List.foldl_append]
  rfl

/-- The sections stand under the keys of their names. -/
def Keyed (s : Services) (sections : List (String × String)) : Prop :=
  ∀ entry ∈ sections, normalizedKey s entry.2 = entry.1

/-- After it every section has a unit, under the keys that the stored units have. -/
theorem discover_spec : ∀ (sections : List (String × String)) {byKey byKey' : OrderedMap String UnitRow} {n n' : Nat}
    {db db' : Personnel}, Keyed s sections → byKey = unitsByKey s db.units →
    discover s sections byKey n db = .ok (byKey', n') db' →
    byKey' = unitsByKey s db'.units ∧ (∀ entry ∈ sections, (byKey'.get entry.1).isSome = true) ∧
      (∀ key, (byKey.get key).isSome = true → (byKey'.get key).isSome = true) ∧
      db'.users = db.users ∧ db'.running = db.running
  | [], byKey, byKey', n, n', db, db', _, hbyKey, h => by
    obtain ⟨hresult, rfl⟩ := returns_pure.mp h
    obtain ⟨rfl, rfl⟩ := Prod.mk.inj hresult
    exact ⟨hbyKey, by simp, fun _ h => h, rfl, rfl⟩
  | (sectionKey, sectionName) :: rest, byKey, byKey', n, n', db, db', hkeyed, hbyKey, h => by
    have hrestKeyed : Keyed s rest := fun entry hentry => hkeyed entry (List.mem_cons_of_mem _ hentry)
    unfold discover at h
    split at h
    · rename_i hhas
      obtain ⟨hstored, hall, hstays, hsame⟩ := discover_spec rest hrestKeyed hbyKey h
      refine ⟨hstored, fun entry hentry => ?_, hstays, hsame⟩
      rcases List.mem_cons.mp hentry with rfl | hentry
      · exact hstays sectionKey hhas
      · exact hall entry hentry
    · obtain ⟨created, dbCreated, hcreate, hrest⟩ := returns_bind.mp h
      unfold createUnit at hcreate
      obtain ⟨row, _, hread, hwrites⟩ := returns_bind.mp hcreate
      obtain ⟨hread, rfl⟩ := returns_reads.mp hread
      obtain ⟨_, _, hwrite, hdone⟩ := returns_bind.mp hwrites
      obtain ⟨rfl, rfl⟩ := returns_pure.mp hdone
      obtain rfl := returns_modify.mp hwrite
      obtain ⟨_, _, hrow⟩ := bind_eq_ok.mp hread
      obtain rfl := Except.ok.inj hrow
      have hkey : normalizedKey s sectionName = sectionKey := hkeyed (sectionKey, sectionName) List.mem_cons_self
      obtain ⟨hstored, hall, hstays, hsame⟩ := discover_spec rest hrestKeyed
        (by rw [unitsByKey_concat, hkey, hbyKey]) hrest
      refine ⟨hstored, fun entry hentry => ?_, fun key hkeyHas => hstays key ?_, hsame⟩
      · rcases List.mem_cons.mp hentry with rfl | hentry
        · refine hstays sectionKey ?_
          rw [OrderedMap.get_set, if_pos rfl]
          rfl
        · exact hall entry hentry
      · rw [OrderedMap.get_set]
        split
        · rfl
        · exact hkeyHas

/-- Where every section has a unit, none is discovered. -/
theorem discover_nothing : ∀ (sections : List (String × String)) {byKey : OrderedMap String UnitRow},
    (∀ entry ∈ sections, (byKey.get entry.1).isSome = true) → ∀ n, discover s sections byKey n db = .ok (byKey, n) db
  | [], _, _, _ => rfl
  | (sectionKey, sectionName) :: rest, byKey, h, n => by
    unfold discover
    rw [if_pos (h (sectionKey, sectionName) List.mem_cons_self)]
    exact discover_nothing rest (fun entry hentry => h entry (List.mem_cons_of_mem _ hentry)) n

theorem readRow_sectionKey {source : WorkHistoryRow} {row : Reading} (h : readRow s source = some row) :
    row.sectionKey = normalizedKey s row.sectionName := by
  unfold readRow at h
  obtain ⟨-, hrow⟩ := Option.ite_none_left_eq_some.mp h
  rw [← Option.some.inj hrow]

theorem keyed_sectionsByKey {rows : List WorkHistoryRow} : Keyed s (sectionsByKey (readings s rows)).entries := by
  have hrow : ∀ row ∈ readings s rows, normalizedKey s row.sectionName = row.sectionKey := by
    intro row hrow
    obtain ⟨_, _, hread⟩ := List.mem_filterMap.mp hrow
    exact (readRow_sectionKey hread).symm
  intro entry hentry
  unfold sectionsByKey at hentry
  refine OrderedMap.collect_always_keyed (I := fun key name => normalizedKey s name = key) ?_ ?_ hentry
  · exact hrow
  · exact fun _ row hmem _ => hrow row hmem

/-! ## Two runs -/

/-- A state in which a run has nothing to do. -/
structure Settled (s : Services) (manual : Bool) (db : Personnel) : Prop where
  sections : ∀ entry ∈ (sectionsByKey s.workHistory).entries, ((unitsByKey s db.units).get entry.1).isSome = true
  users : ∀ user ∈ activeUsers s (sectionsByStaff s.workHistory) db,
    Quiet manual (sectionsByStaff s.workHistory) (unitsByKey s db.units) db user

/-- Quietness is a matter of the columns that a run looks at. -/
theorem Quiet.congr {byStaff : OrderedMap String (OrderedMap String String)} {byKey : OrderedMap String UnitRow}
    {user' : User} (h : Quiet manual byStaff byKey db user) (hid : user'.id = user.id) (hstaff : user'.staffId = user.staffId) :
    Quiet manual byStaff byKey db user' := by
  have hkey : staffKey user' = staffKey user := by
    unfold staffKey
    rw [hstaff]
  unfold Quiet ambiguous targetUnit at *
  rw [hkey]
  intro hclear target htarget
  rw [outcome_congr hid hstaff rfl rfl Iff.rfl]
  exact h hclear target htarget

theorem settled_of_synchronizeRows {result : UnitSyncResult} (h : synchronizeRows s manual db = .ok result db') :
    Settled s manual db' ∧ db'.running = db.running ∧ ∃ rows, loadActiveWorkHistory s = .ok rows := by
  unfold synchronizeRows at h
  obtain ⟨rows, dbRows, hread, hafterRows⟩ := returns_bind.mp h
  obtain ⟨hrows, rfl⟩ := returns_reads.mp hread
  obtain ⟨existingUnits, dbUnits, hreadUnits, hafterUnits⟩ := returns_bind.mp hafterRows
  obtain ⟨hunits, rfl⟩ := returns_reads.mp hreadUnits
  obtain rfl := Except.ok.inj hunits
  obtain ⟨⟨byKey, discoveredUnits⟩, dbDiscovered, hdiscover, hafterDiscover⟩ := returns_bind.mp hafterUnits
  obtain ⟨users, dbUsers, hreadUsers, hloop⟩ := returns_bind.mp hafterDiscover
  obtain ⟨husers, rfl⟩ := returns_reads.mp hreadUsers
  obtain rfl := Except.ok.inj husers
  obtain ⟨hbyKey, hall, -, -, hrunning⟩ := discover_spec _ keyed_sectionsByKey rfl hdiscover
  rw [loadActiveWorkHistory_spec hrows] at hall hloop
  have hids : ((activeUsers s (sectionsByStaff s.workHistory) dbUsers).map (·.id)).Nodup := by
    unfold activeUsers
    split
    · exact List.nodup_nil
    · exact dbUsers.keyed.sublist (List.filter_sublist.map _)
  obtain ⟨hunits', hrunning', hkeys, -, hquiet⟩ := loop_spec _ hids hloop
  refine ⟨⟨?_, fun user huser => ?_⟩, hrunning'.trans hrunning, rows, hrows⟩
  · rw [hunits', ← hbyKey]
    exact hall
  · rw [hunits', ← hbyKey]
    obtain ⟨hmem, hstaffIds, hfound⟩ := mem_activeUsers.mp huser
    have hold : (user.id, user.active, user.staffId) ∈ accountKeys dbUsers := hkeys ▸ List.mem_map.mpr ⟨user, hmem, rfl⟩
    obtain ⟨old, hold, hsame⟩ := List.mem_map.mp hold
    obtain ⟨hid, hsame⟩ := Prod.mk.inj hsame
    obtain ⟨hactive, hstaff⟩ := Prod.mk.inj hsame
    refine (hquiet old (mem_activeUsers.mpr ⟨hold, hstaffIds, ?_⟩)).congr hid.symm hstaff.symm
    rw [hactive, hstaff]
    exact hfound

theorem synchronizeRows_settled {rows : List WorkHistoryRow} (hrows : loadActiveWorkHistory s = .ok rows)
    (h : Settled s manual db) : ∃ result, synchronizeRows s manual db = .ok result db ∧ result.discoveredUnits = 0 ∧
      result.updatedUsers = 0 ∧ result.clearedOverrides = 0 := by
  have hhistory := loadActiveWorkHistory_spec hrows
  obtain ⟨result, hloop, hcounts⟩ := loop_quiet (s := s) _ { discoveredUnits := 0 } h.users
  refine ⟨result, ?_, hcounts⟩
  unfold synchronizeRows
  refine returns_bind.mpr ⟨rows, db, returns_reads.mpr ⟨hrows, rfl⟩, ?_⟩
  refine returns_bind.mpr ⟨db.units, db, returns_reads.mpr ⟨rfl, rfl⟩, ?_⟩
  rw [hhistory]
  refine returns_bind.mpr ⟨(unitsByKey s db.units, 0), db, discover_nothing _ h.sections 0, ?_⟩
  exact returns_bind.mpr ⟨_, db, returns_reads.mpr ⟨rfl, rfl⟩, hloop⟩

/-- A completed run that had something to do, and the state that it leaves. -/
theorem synchronize_spec {result : UnitSyncResult} (h : synchronize s manual db = .ok result db') :
    (db' = db ∧ result = {}) ∨ (manual = true ∨ s.enabled = true) ∧ db'.running = false ∧ Settled s manual db' ∧
      ∃ rows, loadActiveWorkHistory s = .ok rows := by
  unfold synchronize at h
  obtain ⟨running, dbRead, hread, hafterRead⟩ := returns_bind.mp h
  obtain ⟨hrunning, rfl⟩ := returns_reads.mp hread
  split at hafterRead
  · obtain ⟨rfl, rfl⟩ := returns_pure.mp hafterRead
    exact .inl ⟨rfl, rfl⟩
  · rename_i henabled
    split at hafterRead
    · split at hafterRead
      · cases hafterRead
      · obtain ⟨rfl, rfl⟩ := returns_pure.mp hafterRead
        exact .inl ⟨rfl, rfl⟩
    · obtain ⟨_, dbStarted, hstart, hafterStart⟩ := returns_bind.mp hafterRead
      obtain rfl := returns_modify.mp hstart
      obtain ⟨done, dbDone, hrows, hafterRows⟩ := returns_bind.mp hafterStart
      obtain ⟨_, dbStopped, hstop, hend⟩ := returns_bind.mp hafterRows
      obtain rfl := returns_modify.mp hstop
      cases done with
      | error e => cases hend
      | ok done =>
        obtain ⟨rfl, rfl⟩ := returns_pure.mp hend
        obtain ⟨hsettled, -, hsource⟩ := settled_of_synchronizeRows (returns_attempt.mp hrows)
        refine .inr ⟨?_, rfl, ⟨hsettled.sections, hsettled.users⟩, hsource⟩
        revert henabled
        cases manual <;> cases s.enabled <;> simp

theorem synchronize_settled {rows : List WorkHistoryRow} (henabled : manual = true ∨ s.enabled = true)
    (hrunning : db.running = false) (hrows : loadActiveWorkHistory s = .ok rows) (h : Settled s manual db) :
    ∃ result, synchronize s manual db = .ok result db ∧ result.discoveredUnits = 0 ∧ result.updatedUsers = 0 ∧
      result.clearedOverrides = 0 := by
  have hstarted : Settled s manual { db with running := true } := ⟨h.sections, h.users⟩
  obtain ⟨result, hresult, hcounts⟩ := synchronizeRows_settled hrows hstarted
  have hback : { db with running := false } = db := by rw [← hrunning]
  refine ⟨result, ?_, hcounts⟩
  unfold synchronize
  refine returns_bind.mpr ⟨false, db, returns_reads.mpr ⟨hrunning ▸ rfl, rfl⟩, ?_⟩
  rw [if_neg (by rcases henabled with h | h <;> simp [h]), if_neg Bool.false_ne_true]
  refine returns_bind.mpr ⟨⟨⟩, { db with running := true }, rfl, ?_⟩
  refine returns_bind.mpr ⟨.ok result, { db with running := true }, returns_attempt.mpr hresult, ?_⟩
  refine returns_bind.mpr ⟨⟨⟩, db, returns_modify.mpr hback.symm, rfl⟩

/-- A run is safe whatever becomes of it, and a second one right after a completed one changes nothing. -/
theorem unit_synchronisation_converges (s : Services) (manual : Bool) (db : Personnel) :
    Safe manual s.workHistory db (leaves (synchronize s manual) db) ∧
      ∀ result db', synchronize s manual db = .ok result db' →
        ∃ second, synchronize s manual db' = .ok second db' ∧ second.discoveredUnits = 0 ∧ second.updatedUsers = 0 ∧
          second.clearedOverrides = 0 := by
  refine ⟨synchronize_safe s manual db, fun result db' h => ?_⟩
  rcases synchronize_spec h with ⟨rfl, rfl⟩ | ⟨henabled, hrunning, hsettled, rows, hrows⟩
  · exact ⟨{}, h, rfl, rfl, rfl⟩
  · exact synchronize_settled henabled hrunning hrows hsettled

def itUnit : UnitRow := { id := 1, name := "it" }

def analyst : User := { id := 7, email := "analyst@example.com", staffId := some "12" }

def unassigned : Personnel where
  users := [analyst]
  units := [itUnit]
  overrides := []
  keyed := List.nodup_singleton 7

/-- A work history in lower case. -/
def directory (rows : List WorkHistoryRow) : Services where
  enabled := true
  ticketUnitSnapshotsReady := true
  activeWorkHistory := some rows
  toLocaleLowerCase := id
  sameName a b := a == b
  inStaffIds staffId staffIds := staffIds.contains staffId
  audits _ := true

theorem analyst_synchronised : ∃ result db', synchronize (directory [⟨"12", "it"⟩]) false unassigned = .ok result db' ∧
    ∃ second, synchronize (directory [⟨"12", "it"⟩]) false db' = .ok second db' ∧ second.discoveredUnits = 0 ∧
      second.updatedUsers = 0 ∧ second.clearedOverrides = 0 := by
  have hreturned : returned (synchronize (directory [⟨"12", "it"⟩]) false) unassigned = true := by decide +kernel
  obtain ⟨result, db', hrun⟩ := exists_of_returned hreturned
  exact ⟨result, db', hrun, (unit_synchronisation_converges (directory [⟨"12", "it"⟩]) false unassigned).2 result db' hrun⟩

/-- A section of more than 100 characters is not read, so that it is not a second one. -/
theorem long_section_is_no_second : ¬ ∀ (s : Services) (manual : Bool) (db : Personnel) (rows : List WorkHistoryRow)
    (user : User), s.activeWorkHistory = some rows → user ∈ db.users →
    (∃ a ∈ rows, ∃ b ∈ rows, trim a.staffId = staffKey user ∧ trim b.staffId = staffKey user ∧
      normalizeDisplayName a.sectionName ≠ "" ∧ normalizeDisplayName b.sectionName ≠ "" ∧
      normalizedKey s a.sectionName ≠ normalizedKey s b.sectionName) →
    user ∈ (leaves (synchronize s manual) db).users := by
  intro h
  have hkept := h (directory [⟨"12", "it"⟩, ⟨"12", String.ofList (List.replicate 101 'x')⟩]) false unassigned _ analyst rfl
    (by decide +kernel) ⟨_, List.mem_cons_self, _, List.mem_cons_of_mem _ List.mem_cons_self, by decide +kernel⟩
  revert hkept
  decide +kernel

end

end ComplianceHub.Users.UnitSync
