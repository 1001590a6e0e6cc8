import ComplianceHub.Lib.OrderedMap
import ComplianceHub.Users.PendingRequesters
import ComplianceHub.Users.UnitSync

/-!
# Staff directory synchronisation

`StaffDirectorySyncService.run` : the rows of the source, grouped by staff id, become units, positions and rows of the
directory; a preview writes none of them.

* `normalize`, `isInvalid`, `groups` : the source; `unitMap`, `byStaff`, `unmatchedNames` : what is read beforehand;
* `discoverUnit`, `processGroup`, `run` : the run;
* `Converges` : a preview returns what the run returns, and a second run changes nothing;
* `newSections`, `Prompt` : the sections that become units, and that none of them does so after a group in conflict has
  missed it;
* `exists_preview`, `process_isSome_iff`, `rows_of_prompt`, `prompt_of_rows`, `process_settled` : one fact each about the
  loop;
* `converges_iff` : when a run converges.

`synced_at` is left out.
-/

namespace ComplianceHub.Users.StaffSync

open ComplianceHub.Lib
open ComplianceHub.Users.PendingRequesters (Collation Desk Runtime StaffRow)
open ComplianceHub.Users.UnitSync (jsLength nextUnitId normalizeDisplayName)

/-! ## The source -/

structure SourceRow where
  staffId : Option String := none
  firstName : Option String := none
  lastName : Option String := none
  middleName : Option String := none
  suffix : Option String := none
  positionFull : Option String := none
  sectionName : Option String := none
deriving DecidableEq, Repr

/-- `norm(value) || null` -/
def norm (value : Option String) : Option String := truthy (some (normalizeDisplayName (value.getD "")))

def normalize (raw : SourceRow) : SourceRow where
  staffId := norm raw.staffId
  firstName := norm raw.firstName
  lastName := norm raw.lastName
  middleName := norm raw.middleName
  suffix := norm raw.suffix
  positionFull := norm raw.positionFull
  sectionName := norm raw.sectionName

def isLonger (limit : Nat) (value : Option String) : Bool := value.any fun value => limit < jsLength value

def isInvalid (p : SourceRow) : Bool :=
  !isStaffId (p.staffId.getD "") || p.firstName.isNone || p.lastName.isNone || p.sectionName.isNone ||
    [p.firstName, p.lastName, p.middleName, p.positionFull, p.sectionName].any (isLonger 100) || isLonger 5 p.suffix

/-- The valid rows of a staff id: the first of them, and whether another differs from it. -/
structure Group where
  staffId : String
  person : SourceRow
  conflicting : Bool
deriving DecidableEq, Repr

def Group.sectionName (g : Group) : String := g.person.sectionName.getD ""

def grouped (source : List SourceRow) : OrderedMap String (List SourceRow) :=
  .collect (fun p => p.staffId.getD "") (fun _ => []) (fun group p => group ++ [p])
    ((source.map normalize).filter fun p => !isInvalid p)

def toGroup (staffId : String) : List SourceRow → Option Group
  | [] => none
  | person :: rest => some { staffId, person, conflicting := rest.any (· ≠ person) }

def groups (source : List SourceRow) : List Group := (grouped source).entries.filterMap fun (staffId, rows) => toGroup staffId rows

/-! ## The tables -/

/-- What a run holds of a unit. In a preview a unit that it would make has no id. -/
structure UnitEntry where
  id : Option Nat
  active : Bool
  hasReportorialRequirements : Bool
deriving DecidableEq, Repr

def toEntry (unit : UnitRow) : UnitEntry := ⟨some unit.id, unit.active, unit.hasReportorialRequirements⟩

section
variable (js : Runtime)

def unitKey (unit : UnitRow) : String := js.toLowerCase (normalizeDisplayName unit.name)

def sectionKey (g : Group) : String := js.toLowerCase g.sectionName

def unitMap (units : List UnitRow) : OrderedMap String UnitEntry :=
  .collect (unitKey js) toEntry (fun _ unit => toEntry unit) units

/-- The last account of a staff id. -/
def byStaff (users : List User) (staffId : String) : Option User :=
  (users.filter fun user => truthy user.staffId = some staffId).getLast?

/-- The names of the accounts without a staff id. -/
def unmatchedNames (users : List User) : List String :=
  (users.filter fun user => trim (user.staffId.getD "") = "").map fun user =>
    PendingRequesters.staffNameKey js user.firstName user.lastName

end

/-- The rows of the directory, in a desk whose other tables stay. -/
def withStaff (db : Desk) (staff : List StaffRow) (h : (staff.map fun row => db.collation.key row.staffId).Nodup) : Desk :=
  { db with staff, staffKey := h }

/-- The name of a unit is unique. -/
def insertUnit (db : Desk) (name : String) : Option Desk :=
  if ∀ unit ∈ db.units, ¬ db.sameText name unit.name then
    some { db with units := db.units ++ [{ id := nextUnitId db.units, name }] }
  else none

def setPosition (id : Nat) (staffId positionFull : String) (db : Desk) : Desk :=
  { db with users := db.users.map fun user =>
      if user.id = id ∧ user.staffId.any (fun own => db.sameText own staffId) then
        { user with positionFull := some positionFull }
      else user }

/-- A row with other columns. -/
def overwrite (values : PendingStaff) (row : StaffRow) : StaffRow :=
  { id := row.id, toPendingStaff := { values with staffId := row.staffId } }

def upsertedRows (db : Desk) (values : PendingStaff) : List StaffRow :=
  if (db.staffRow? values.staffId).isSome then
    db.staff.map fun row => if db.sameText row.staffId values.staffId then overwrite values row else row
  else db.staff ++ [{ id := (db.staff.map StaffRow.id).foldr max 0 + 1, toPendingStaff := values }]

theorem upsertedRows_keys (db : Desk) (values : PendingStaff) :
    ((upsertedRows db values).map fun row => db.collation.key row.staffId).Nodup := by
  unfold upsertedRows
  split_ifs with hsome
  · have hkeys : (db.staff.map fun row => if db.sameText row.staffId values.staffId then overwrite values row else row).map
        (fun row => db.collation.key row.staffId) = db.staff.map fun row => db.collation.key row.staffId := by
      rw [List.map_map]
      refine List.map_congr_left fun row _ => ?_
      show db.collation.key (if db.sameText row.staffId values.staffId then overwrite values row else row).staffId = _
      split_ifs <;> rfl
    rw [hkeys]
    exact db.staffKey
  · refine nodup_column_concat db.staffKey fun row hrow hsame => hsome ?_
    unfold Desk.staffRow?
    rw [List.find?_isSome]
    exact ⟨row, hrow, decide_eq_true hsame⟩

/-- `INSERT … ON DUPLICATE KEY UPDATE` -/
def upsertStaff (values : PendingStaff) (db : Desk) : Desk := withStaff db (upsertedRows db values) (upsertedRows_keys db values)

/-- `UPDATE … SET available=0 WHERE staff_id NOT IN (?)` -/
def withdrawn (db : Desk) (seen : List String) (row : StaffRow) : StaffRow :=
  if ∃ staffId ∈ seen, db.sameText row.staffId staffId then row else { row with available := false }

theorem withdrawn_keys (db : Desk) (seen : List String) :
    ((db.staff.map (withdrawn db seen)).map fun row => db.collation.key row.staffId).Nodup := by
  have hkeys : (db.staff.map (withdrawn db seen)).map (fun row => db.collation.key row.staffId) =
      db.staff.map fun row => db.collation.key row.staffId := by
    rw [List.map_map]
    refine List.map_congr_left fun row _ => ?_
    show db.collation.key (withdrawn db seen row).staffId = _
    unfold withdrawn
    split_ifs <;> rfl
  rw [hkeys]
  exact db.staffKey

def withdraw (seen : List String) (db : Desk) : Desk := withStaff db (db.staff.map (withdrawn db seen)) (withdrawn_keys db seen)

/-! ## The run -/

structure SyncResult where
  sourceRows : Nat := 0
  insertedPending : Nat := 0
  updatedPositions : Nat := 0
  reviewRequired : Nat := 0
  invalidRows : Nat := 0
  discoveredUnits : Nat := 0
deriving DecidableEq, Repr

structure Progress where
  unitMap : OrderedMap String UnitEntry
  db : Desk
  result : SyncResult

section
variable (js : Runtime) (dryRun : Bool)

/-- The unit of a section, made if no unit has it and the group is not in conflict. -/
def discoverUnit (g : Group) (r : Progress) : Option (Progress × Option UnitEntry) :=
  match r.unitMap.get (sectionKey js g) with
  | some unit => some (r, some unit)
  | none =>
    if g.conflicting then some (r, none)
    else do
      let db ← if dryRun then some r.db else insertUnit r.db g.sectionName
      let unit : UnitEntry := ⟨if dryRun then none else some (nextUnitId r.db.units), true, false⟩
      some ({ unitMap := r.unitMap.set (sectionKey js g) unit
              db
              result := { r.result with discoveredUnits := r.result.discoveredUnits + 1 } }, some unit)

def reviewReason (g : Group) (existing : Option User) (unmatched : List String) (unit : Option UnitEntry) : Option String :=
  let reason :=
    if g.conflicting then some "Conflicting active source records for this staff ID."
    else if existing.isNone ∧ PendingRequesters.staffNameKey js g.person.firstName g.person.lastName ∈ unmatched then
      some "Possible existing account without staff ID."
    else none
  let reason :=
    if !g.conflicting && unit.any fun unit => !unit.active then
      some "The corresponding application unit is inactive."
    else reason
  if existing.isNone && !g.conflicting && unit.any UnitEntry.hasReportorialRequirements then
    some "Reportorial-unit staff require authorized account setup."
  else reason

/-- The position that the account of a group does not have. -/
def newPosition (g : Group) (existing : Option User) : Option (User × String) := do
  let user ← existing
  let positionFull ← g.person.positionFull
  if g.conflicting = false ∧ some positionFull ≠ user.positionFull then some (user, positionFull) else none

def one (b : Bool) : Nat := if b then 1 else 0

def tally (g : Group) (existing : Option User) (reason : Option String) (prior : Option StaffRow) (result : SyncResult) :
    SyncResult :=
  { result with
    reviewRequired := result.reviewRequired + one reason.isSome
    updatedPositions := result.updatedPositions + one (newPosition g existing).isSome
    insertedPending := result.insertedPending + one (prior.isNone && existing.isNone) }

/-- The columns of the directory that a group is written to. -/
def staffValues (g : Group) (existing : Option User) (reason : Option String) (unit : Option UnitEntry) : PendingStaff where
  staffId := g.staffId
  firstName := g.person.firstName
  middleName := g.person.middleName
  lastName := g.person.lastName
  suffix := g.person.suffix
  positionFull := g.person.positionFull
  unitId := unit.bind UnitEntry.id
  available := true
  reviewReason := reason
  linkedUserId := existing.map User.id

def writePosition (g : Group) (existing : Option User) (db : Desk) : Desk :=
  match newPosition g existing with
  | some (user, positionFull) => setPosition user.id g.staffId positionFull db
  | none => db

/-- The row that a group is written to; `users` is read before the loop. -/
def groupValues (users : List User) (g : Group) (unit : Option UnitEntry) : PendingStaff :=
  let existing := byStaff users g.staffId
  staffValues g existing (reviewReason js g existing (unmatchedNames js users) unit) unit

def recordGroup (users : List User) (g : Group) (unit : Option UnitEntry) (r : Progress) : Progress :=
  let existing := byStaff users g.staffId
  let reason := reviewReason js g existing (unmatchedNames js users) unit
  { r with
    db := if dryRun then r.db else upsertStaff (groupValues js users g unit) (writePosition g existing r.db)
    result := tally g existing reason (r.db.staffRow? g.staffId) r.result }

def processGroup (users : List User) (r : Progress) (g : Group) : Option Progress := do
  let (r, unit) ← discoverUnit js dryRun g r
  some (recordGroup js dryRun users g unit r)

def process (users : List User) : List Group → Progress → Option Progress
  | [], r => some r
  | g :: rest, r => (processGroup js dryRun users r g).bind (process users rest)

def start (source : List SourceRow) (db : Desk) : Progress where
  unitMap := unitMap js db.units
  db
  result := { sourceRows := source.length, invalidRows := ((source.map normalize).filter isInvalid).length }

/-- A preview is rolled back. -/
def run (source : List SourceRow) (db : Desk) : Option (SyncResult × Desk) := do
  let r ← process js dryRun db.users (groups source) (start js source db)
  some (r.result, if dryRun then db else withdraw ((groups source).map Group.staffId) r.db)

end

/-! ## Convergence -/

/-- A preview changes nothing and returns what the run does, and a second run changes nothing. -/
def Converges (js : Runtime) (source : List SourceRow) (db : Desk) : Prop :=
  ∃ result db', run js false source db = some (result, db') ∧ run js true source db = some (result, db) ∧
    ∃ second, run js false source db' = some (second, db') ∧ second.insertedPending = 0 ∧ second.updatedPositions = 0 ∧
      second.discoveredUnits = 0

section
variable (js : Runtime)

/-- The sections that a run makes units of, where there are units with some keys. -/
def newSections (keys : List String) : List Group → List String
  | [] => []
  | g :: rest =>
    if g.conflicting = true ∨ sectionKey js g ∈ keys then newSections keys rest
    else g.sectionName :: newSections (sectionKey js g :: keys) rest

/-- No group in conflict comes before the one that makes the unit of its section. -/
def Prompt (keys : List String) : List Group → Prop
  | [] => True
  | g :: rest => (g.conflicting = true → sectionKey js g ∉ keys → ∀ later ∈ rest, later.conflicting = false →
      sectionKey js later ≠ sectionKey js g) ∧ Prompt (if g.conflicting then keys else sectionKey js g :: keys) rest

instance (keys : List String) : ∀ l, Decidable (Prompt js keys l)
  | [] => isTrue trivial
  | g :: rest =>
    have : Decidable (Prompt js (if g.conflicting then keys else sectionKey js g :: keys) rest) :=
      instDecidablePrompt _ rest
    inferInstanceAs (Decidable (_ ∧ _))

end

/-! ## Normal texts -/

/-- No white space at the ends, and only single spaces between. -/
structure Tidy (text : List Char) : Prop where
  spaces : ∀ c ∈ text, isSpace c = true → c = ' '
  single : text.IsChain fun c d => ¬ (isSpace c = true ∧ isSpace d = true)
  first : ∀ c ∈ text.head?, isSpace c = false
  last : ∀ c ∈ text.getLast?, isSpace c = false

theorem collapseSpaces_spaces : ∀ text : List Char, ∀ c ∈ collapseSpaces text, isSpace c = true → c = ' '
  | [], c, hc, _ => by simp [collapseSpaces] at hc
  | [d], c, hc, hspace => by
    unfold collapseSpaces at hc
    split_ifs at hc with hd
    · exact List.mem_singleton.mp hc
    · obtain rfl := List.mem_singleton.mp hc
      exact absurd hspace hd
  | d :: e :: rest, c, hc, hspace => by
    unfold collapseSpaces at hc
    split_ifs at hc with hboth hd
    · exact collapseSpaces_spaces (e :: rest) c hc hspace
    · rcases List.mem_cons.mp hc with rfl | hc
      · rfl
      · exact collapseSpaces_spaces (e :: rest) c hc hspace
    · rcases List.mem_cons.mp hc with rfl | hc
      · exact absurd hspace hd
      · exact collapseSpaces_spaces (e :: rest) c hc hspace

/-- The first character stays, or a space for it. -/
theorem head?_collapseSpaces : ∀ (c : Char) (rest : List Char), ∃ d own, collapseSpaces (c :: rest) = d :: own ∧
    isSpace d = isSpace c ∧ (isSpace c = false → d = c)
  | c, [] => by
    unfold collapseSpaces
    split_ifs with hc
    · exact ⟨' ', [], rfl, hc.symm ▸ by decide, fun h => by rw [hc] at h; cases h⟩
    · exact ⟨c, [], rfl, rfl, fun _ => rfl⟩
  | c, d :: rest => by
    unfold collapseSpaces
    split_ifs with hboth hc
    · obtain ⟨e, own, hown, he, -⟩ := head?_collapseSpaces d rest
      exact ⟨e, own, hown, by rw [he, hboth.1, hboth.2], fun h => by rw [hboth.1] at h; cases h⟩
    · exact ⟨' ', _, rfl, hc.symm ▸ by decide, fun h => by rw [hc] at h; cases h⟩
    · exact ⟨c, _, rfl, rfl, fun _ => rfl⟩

theorem collapseSpaces_single : ∀ text : List Char,
    (collapseSpaces text).IsChain fun c d => ¬ (isSpace c = true ∧ isSpace d = true)
  | [] => .nil
  | [_] => .singleton _
  | c :: d :: rest => by
    have ih := collapseSpaces_single (d :: rest)
    unfold collapseSpaces
    split_ifs with hboth hc
    · exact ih
    · obtain ⟨e, own, hown, he, -⟩ := head?_collapseSpaces d rest
      rw [hown] at ih ⊢
      refine .cons_cons (fun h => hboth ⟨hc, ?_⟩) ih
      rw [← he]
      exact h.2
    · obtain ⟨e, own, hown, -⟩ := head?_collapseSpaces d rest
      rw [hown] at ih ⊢
      exact .cons_cons (fun h => hc h.1) ih

theorem getLast?_collapseSpaces : ∀ text : List Char, (∀ c ∈ text.getLast?, isSpace c = false) →
    ∀ c ∈ (collapseSpaces text).getLast?, isSpace c = false
  | [], _, c, hc => by simp [collapseSpaces] at hc
  | [d], h, c, hc => by
    have hd := h d rfl
    unfold collapseSpaces at hc
    rw [if_neg (by simp [hd])] at hc
    obtain rfl : d = c := by simpa using hc
    exact hd
  | d :: e :: rest, h, c, hc => by
    have hrest : ∀ c ∈ (e :: rest).getLast?, isSpace c = false := fun c hc => h c (by rwa [List.getLast?_cons_cons])
    obtain ⟨f, own, hown, -⟩ := head?_collapseSpaces e rest
    unfold collapseSpaces at hc
    split_ifs at hc
    · exact getLast?_collapseSpaces (e :: rest) hrest c hc
    · rw [hown, List.getLast?_cons_cons, ← hown] at hc
      exact getLast?_collapseSpaces (e :: rest) hrest c hc
    · rw [hown, List.getLast?_cons_cons, ← hown] at hc
      exact getLast?_collapseSpaces (e :: rest) hrest c hc

theorem collapseSpaces_of_single : ∀ text : List Char, (∀ c ∈ text, isSpace c = true → c = ' ') →
    (text.IsChain fun c d => ¬ (isSpace c = true ∧ isSpace d = true)) → collapseSpaces text = text
  | [], _, _ => rfl
  | [c], h, _ => by
    unfold collapseSpaces
    split_ifs with hc
    · rw [h c List.mem_cons_self hc]
    · rfl
  | c :: d :: rest, h, hchain => by
    obtain ⟨hfirst, hrest⟩ := List.isChain_cons_cons.mp hchain
    unfold collapseSpaces
    rw [if_neg hfirst, collapseSpaces_of_single (d :: rest) (fun e he => h e (List.mem_cons_of_mem c he)) hrest]
    split_ifs with hc
    · rw [h c List.mem_cons_self hc]
    · rfl

/-- The ends of a trimmed text. -/
theorem trimmed_ends (text : List Char) : let trimmed := ((text.dropWhile isSpace).reverse.dropWhile isSpace).reverse
    (∀ c ∈ trimmed.head?, isSpace c = false) ∧ ∀ c ∈ trimmed.getLast?, isSpace c = false := by
  have hhead (l : List Char) : ∀ c ∈ (l.dropWhile isSpace).head?, isSpace c = false := by
    intro c hc
    have hne : l.dropWhile isSpace ≠ [] := by
      intro hnil
      simp [hnil] at hc
    have hnot := List.head_dropWhile_not isSpace hne
    rw [List.head?_eq_some_head hne] at hc
    obtain rfl : (l.dropWhile isSpace).head hne = c := Option.some.inj hc
    simpa using hnot
  constructor
  · intro c hc
    -- what the second pass leaves is where the first pass stopped
    rw [List.head?_reverse] at hc
    have hsuffix := List.dropWhile_suffix (l := (text.dropWhile isSpace).reverse) isSpace
    obtain ⟨init, hinit⟩ := hsuffix
    refine hhead text c ?_
    have hlast : (text.dropWhile isSpace).reverse.getLast? = some c := by
      rw [← hinit, List.getLast?_append, hc]
      rfl
    rwa [List.getLast?_reverse] at hlast
  · intro c hc
    rw [List.getLast?_reverse] at hc
    exact hhead _ c hc

theorem tidy_normalizeDisplayName (text : String) : Tidy (normalizeDisplayName text).toList := by
  have htext : (normalizeDisplayName text).toList = collapseSpaces (trim text).toList := String.toList_ofList
  obtain ⟨hfirst, hlast⟩ := trimmed_ends text.toList
  have htrim : (trim text).toList = ((text.toList.dropWhile isSpace).reverse.dropWhile isSpace).reverse := String.toList_ofList
  rw [← htrim] at hfirst hlast
  rw [htext]
  refine ⟨collapseSpaces_spaces _, collapseSpaces_single _, ?_, getLast?_collapseSpaces _ hlast⟩
  cases htoList : (trim text).toList with
  | nil => simp [collapseSpaces]
  | cons c rest =>
    obtain ⟨d, own, hown, hd, -⟩ := head?_collapseSpaces c rest
    rw [hown]
    intro e he
    obtain rfl : d = e := by simpa using he
    rw [hd]
    exact hfirst c (by rw [htoList]; rfl)

theorem normalizeDisplayName_of_tidy {text : String} (h : Tidy text.toList) : normalizeDisplayName text = text := by
  have hfirst : text.toList.dropWhile isSpace = text.toList := by
    cases htext : text.toList with
    | nil => rfl
    | cons c rest => rw [List.dropWhile_cons_of_neg (by simp [h.first c (by rw [htext]; rfl)])]
  have hlast : text.toList.reverse.dropWhile isSpace = text.toList.reverse := by
    cases htext : text.toList.reverse with
    | nil => rfl
    | cons c rest =>
      have hc : text.toList.getLast? = some c := by
        rw [← List.head?_reverse, htext]
        rfl
      rw [List.dropWhile_cons_of_neg (by simp [h.last c hc])]
  have htrim : (trim text).toList = text.toList := by
    unfold trim
    rw [String.toList_ofList, hfirst, hlast, List.reverse_reverse]
  unfold normalizeDisplayName
  rw [htrim, collapseSpaces_of_single _ h.spaces h.single, String.ofList_toList]

/-- A text in normal form stays as it is. -/
theorem normalizeDisplayName_normalizeDisplayName (text : String) :
    normalizeDisplayName (normalizeDisplayName text) = normalizeDisplayName text :=
  normalizeDisplayName_of_tidy (tidy_normalizeDisplayName text)

/-! ## Rows of the directory -/

section
variable {db : Desk} {values : PendingStaff} {staffId : String} {row : StaffRow}

theorem overwrite_overwrite : overwrite values (overwrite values row) = overwrite values row := rfl

theorem withStaff_eq_self {staff : List StaffRow} {h : (staff.map fun row => db.collation.key row.staffId).Nodup}
    (hstaff : staff = db.staff) : withStaff db staff h = db := by
  subst hstaff
  rfl

theorem staffRow?_eq_some (h : db.staffRow? staffId = some row) : row ∈ db.staff ∧ db.sameText row.staffId staffId := by
  unfold Desk.staffRow? at h
  have hsame := List.find?_some h
  rw [decide_eq_true_eq] at hsame
  exact ⟨List.mem_of_find?_eq_some h, hsame⟩

/-- A change of rows that keeps the staff ids. -/
theorem find?_changed {f : StaffRow → StaffRow} (hids : ∀ row, (f row).staffId = row.staffId) :
    (db.staff.map f).find? (fun row => db.sameText row.staffId staffId) = (db.staffRow? staffId).map f := by
  unfold Desk.staffRow?
  rw [List.find?_map]
  refine congrArg (Option.map f) (congrArg (List.find? · db.staff) (funext fun row => ?_))
  show decide (db.sameText (f row).staffId staffId) = _
  rw [hids]

theorem staffRow?_upsertStaff (hsame : db.sameText values.staffId staffId) :
    ∃ row, (upsertStaff values db).staffRow? staffId = some row ∧ row = overwrite values row := by
  have hsearch : (upsertStaff values db).staffRow? staffId =
      (upsertedRows db values).find? fun row => db.sameText row.staffId staffId := rfl
  have hown : db.staffRow? values.staffId = db.staffRow? staffId := by
    unfold Desk.staffRow?
    refine congrArg (List.find? · db.staff) (funext fun row => decide_eq_decide.mpr ?_)
    exact ⟨fun h => h.trans hsame, fun h => h.trans hsame.symm⟩
  rw [hsearch]
  unfold upsertedRows
  split_ifs with hsome
  · rw [find?_changed (by intro row; split_ifs <;> rfl)]
    obtain ⟨row, hrow⟩ := Option.isSome_iff_exists.mp hsome
    rw [← hown, hrow]
    exact ⟨overwrite values row, congrArg some (if_pos (staffRow?_eq_some hrow).2), overwrite_overwrite.symm⟩
  · rw [hown, Option.not_isSome_iff_eq_none] at hsome
    unfold Desk.staffRow? at hsome
    rw [List.find?_append, hsome, Option.none_or, List.find?_singleton, if_pos (decide_eq_true hsame)]
    exact ⟨_, rfl, rfl⟩

theorem staffRow?_upsertStaff_of_ne (hne : ¬ db.sameText values.staffId staffId) :
    (upsertStaff values db).staffRow? staffId = db.staffRow? staffId := by
  have hsearch : (upsertStaff values db).staffRow? staffId =
      (upsertedRows db values).find? fun row => db.sameText row.staffId staffId := rfl
  rw [hsearch]
  unfold upsertedRows
  split_ifs with hsome
  · rw [find?_changed (by intro row; split_ifs <;> rfl)]
    cases hrow : db.staffRow? staffId with
    | none => rfl
    | some row =>
      have hother : ¬ db.sameText row.staffId values.staffId := fun h => hne (h.symm.trans (staffRow?_eq_some hrow).2)
      exact congrArg some (if_neg hother)
  · unfold Desk.staffRow?
    rw [List.find?_append, List.find?_singleton, if_neg (by simpa using hne), Option.or_none]

/-- A row that has the values already. -/
theorem upsertStaff_eq_self (h : db.staffRow? values.staffId = some row) (hrow : row = overwrite values row) :
    upsertStaff values db = db := by
  refine withStaff_eq_self ?_
  obtain ⟨hmem, hsame⟩ := staffRow?_eq_some h
  unfold upsertedRows
  rw [if_pos (by rw [h]; rfl)]
  refine (List.map_congr_left fun other hother => ?_).trans (List.map_id _)
  split_ifs with hother'
  · obtain rfl : other = row := PendingRequesters.eq_of_staffId_eq hother hmem (hother'.trans hsame.symm)
    exact hrow.symm
  · rfl

theorem staffRow?_withdraw {seen : List String} (hseen : staffId ∈ seen) :
    (withdraw seen db).staffRow? staffId = db.staffRow? staffId := by
  have hsearch : (withdraw seen db).staffRow? staffId =
      (db.staff.map (withdrawn db seen)).find? fun row => db.sameText row.staffId staffId := rfl
  rw [hsearch, find?_changed (by intro row; unfold withdrawn; split_ifs <;> rfl)]
  cases hrow : db.staffRow? staffId with
  | none => rfl
  | some row =>
    unfold withdrawn
    rw [Option.map_some, if_pos ⟨staffId, hseen, (staffRow?_eq_some hrow).2⟩]

theorem withdraw_withdraw {seen : List String} : withdraw seen (withdraw seen db) = withdraw seen db := by
  refine withStaff_eq_self ?_
  show (db.staff.map (withdrawn db seen)).map (withdrawn (withdraw seen db) seen) = db.staff.map (withdrawn db seen)
  rw [List.map_map]
  refine List.map_congr_left fun row _ => ?_
  show withdrawn db seen (withdrawn db seen row) = withdrawn db seen row
  by_cases hseen : ∃ staffId ∈ seen, db.sameText row.staffId staffId
  · have hown : withdrawn db seen row = row := if_pos hseen
    rw [hown, hown]
  · have hown : withdrawn db seen row = { row with available := false } := if_neg hseen
    rw [hown]
    exact if_neg hseen

end

/-! ## The units -/

section
variable {js : Runtime} {units : List UnitRow} {unit : UnitRow} {k : String} {e : UnitEntry}

theorem unitMap_concat : unitMap js (units ++ [unit]) = (unitMap js units).set (unitKey js unit) (toEntry unit) := by
  unfold unitMap OrderedMap.collect
  rw [List.foldl_append]
  rfl

theorem get_unitMap_isSome : ((unitMap js units).get k).isSome = true ↔ k ∈ units.map (unitKey js) := by
  have hkeys : k ∈ (unitMap js units).entries.map Prod.fst ↔ ∃ unit ∈ units, unitKey js unit = k :=
    OrderedMap.mem_keys_collect
  rw [List.mem_map, ← hkeys, Option.isSome_iff_exists]
  simp [← OrderedMap.mem_entries_iff]

theorem id_of_unitMap (h : (unitMap js units).get k = some e) : ∃ id, e.id = some id :=
  OrderedMap.collect_always (I := fun entry : UnitEntry => ∃ id, entry.id = some id) (fun unit _ => ⟨unit.id, rfl⟩)
    (fun _ unit _ _ => ⟨unit.id, rfl⟩) (OrderedMap.mem_entries_iff.mpr h)

end

/-! ## What a run leaves -/

section
variable {js : Runtime} {users : List User} {g : Group} {r r₁ r' : Progress} {unit : Option UnitEntry}
  {groups : List Group} {keys : List String}

/-- What a run holds of the units is what stands in the table. -/
def Current (js : Runtime) (r : Progress) : Prop := r.unitMap = unitMap js r.db.units

structure Discovered (js : Runtime) (g : Group) (r r₁ : Progress) (unit : Option UnitEntry) : Prop where
  current : Current js r₁
  unit_eq : unit = r₁.unitMap.get (sectionKey js g)
  kept : ∀ k e, r.unitMap.get k = some e → r₁.unitMap.get k = some e
  known : ∀ k, (r₁.unitMap.get k).isSome = true ↔
    (r.unitMap.get k).isSome = true ∨ g.conflicting = false ∧ k = sectionKey js g
  db_eq : r₁.db = { r.db with units := r₁.db.units }

theorem discovered_of_discoverUnit (hcurrent : Current js r)
    (hsection : normalizeDisplayName g.sectionName = g.sectionName)
    (h : discoverUnit js false g r = some (r₁, unit)) : Discovered js g r r₁ unit := by
  unfold discoverUnit at h
  cases hget : r.unitMap.get (sectionKey js g) with
  | some e =>
    rw [hget] at h
    obtain ⟨rfl, rfl⟩ := Prod.ext_iff.mp (Option.some.inj h)
    refine ⟨hcurrent, hget.symm, fun _ _ h => h, fun k => ⟨.inl, ?_⟩, rfl⟩
    rintro (h | ⟨-, rfl⟩)
    · exact h
    · rw [hget]
      rfl
  | none =>
    rw [hget] at h
    cases hconflicting : g.conflicting with
    | true =>
      simp only [hconflicting, if_true] at h
      obtain ⟨rfl, rfl⟩ := Prod.ext_iff.mp (Option.some.inj h)
      refine ⟨hcurrent, hget.symm, fun _ _ h => h, fun k => ⟨.inl, ?_⟩, rfl⟩
      rintro (h | ⟨h, -⟩)
      · exact h
      · rw [hconflicting] at h
        cases h
    | false =>
      simp only [hconflicting, Bool.false_eq_true, if_false] at h
      obtain ⟨db, hdb, h⟩ := Option.bind_eq_some_iff.mp h
      unfold insertUnit at hdb
      split_ifs at hdb with hfresh
      obtain rfl := Option.some.inj hdb
      obtain ⟨rfl, rfl⟩ := Prod.ext_iff.mp (Option.some.inj h)
      have hkey : unitKey js { id := nextUnitId r.db.units, name := g.sectionName } = sectionKey js g :=
        congrArg js.toLowerCase hsection
      refine ⟨?_, ?_, ?_, ?_, rfl⟩
      · show r.unitMap.set _ _ = unitMap js (r.db.units ++ [_])
        rw [unitMap_concat, hkey, ← hcurrent]
        rfl
      · show some _ = (r.unitMap.set _ _).get _
        rw [OrderedMap.get_set, if_pos rfl]
      · intro k e he
        show (r.unitMap.set _ _).get k = some e
        have hne : k ≠ sectionKey js g := by
          rintro rfl
          rw [hget] at he
          cases he
        rw [OrderedMap.get_set, if_neg hne, he]
      · intro k
        show ((r.unitMap.set _ _).get k).isSome = true ↔ _
        rw [OrderedMap.get_set]
        by_cases hk : k = sectionKey js g
        · simp [hk, hconflicting]
        · simp [hk]

theorem processGroup_eq_some {dryRun : Bool} : processGroup js dryRun users r g = some r' ↔
    ∃ r₁ unit, discoverUnit js dryRun g r = some (r₁, unit) ∧ recordGroup js dryRun users g unit r₁ = r' := by
  unfold processGroup
  rw [Option.bind_eq_bind, Option.bind_eq_some_iff]
  constructor
  · rintro ⟨⟨r₁, unit⟩, hdiscover, h⟩
    exact ⟨r₁, unit, hdiscover, Option.some.inj h⟩
  · rintro ⟨r₁, unit, hdiscover, rfl⟩
    exact ⟨(r₁, unit), hdiscover, rfl⟩

theorem process_cons_eq_some {dryRun : Bool} {rest : List Group} : process js dryRun users (g :: rest) r = some r' ↔
    ∃ r₁ unit, discoverUnit js dryRun g r = some (r₁, unit) ∧
      process js dryRun users rest (recordGroup js dryRun users g unit r₁) = some r' := by
  show (processGroup js dryRun users r g).bind (process js dryRun users rest) = some r' ↔ _
  rw [Option.bind_eq_some_iff]
  simp only [processGroup_eq_some]
  constructor
  · rintro ⟨_, ⟨r₁, unit, hdiscover, rfl⟩, h⟩
    exact ⟨r₁, unit, hdiscover, h⟩
  · rintro ⟨r₁, unit, hdiscover, h⟩
    exact ⟨_, ⟨r₁, unit, hdiscover, rfl⟩, h⟩

theorem sameText_congr {db db' : Desk} (h : db'.collation = db.collation) (a b : String) :
    db'.sameText a b ↔ db.sameText a b := by
  unfold Desk.sameText
  rw [h]

theorem collation_writePosition {existing : Option User} {db : Desk} :
    (writePosition g existing db).collation = db.collation := by
  unfold writePosition
  split <;> rfl

theorem units_writePosition {existing : Option User} {db : Desk} : (writePosition g existing db).units = db.units := by
  unfold writePosition
  split <;> rfl

theorem staffRow?_writePosition {existing : Option User} {db : Desk} {staffId : String} :
    (writePosition g existing db).staffRow? staffId = db.staffRow? staffId := by
  unfold writePosition
  split <;> rfl

theorem collation_recordGroup : (recordGroup js false users g unit r).db.collation = r.db.collation :=
  collation_writePosition

theorem units_recordGroup : (recordGroup js false users g unit r).db.units = r.db.units := units_writePosition

theorem current_recordGroup (h : Current js r) : Current js (recordGroup js false users g unit r) := by
  unfold Current
  rw [units_recordGroup]
  exact h

theorem staffRow?_recordGroup : ∃ row, (recordGroup js false users g unit r).db.staffRow? g.staffId = some row ∧
    row = overwrite (groupValues js users g unit) row :=
  staffRow?_upsertStaff (rfl : Desk.sameText _ g.staffId g.staffId)

theorem staffRow?_recordGroup_of_ne {staffId : String} (h : ¬ r.db.sameText g.staffId staffId) :
    (recordGroup js false users g unit r).db.staffRow? staffId = r.db.staffRow? staffId := by
  have hne : ¬ (writePosition g (byStaff users g.staffId) r.db).sameText g.staffId staffId := by
    rwa [sameText_congr collation_writePosition]
  exact (staffRow?_upsertStaff_of_ne hne).trans staffRow?_writePosition

/-- What a loop over some groups leaves. -/
structure Processed (js : Runtime) (groups : List Group) (r r' : Progress) : Prop where
  current : Current js r'
  kept : ∀ k e, r.unitMap.get k = some e → r'.unitMap.get k = some e
  known : ∀ k, (r'.unitMap.get k).isSome = true ↔
    (r.unitMap.get k).isSome = true ∨ ∃ g ∈ groups, g.conflicting = false ∧ k = sectionKey js g
  collation : r'.db.collation = r.db.collation
  others : ∀ staffId, (∀ g ∈ groups, ¬ r.db.sameText g.staffId staffId) →
    r'.db.staffRow? staffId = r.db.staffRow? staffId

theorem Discovered.collation (h : Discovered js g r r₁ unit) : r₁.db.collation = r.db.collation := by
  rw [h.db_eq]

theorem Discovered.staffRow? (h : Discovered js g r r₁ unit) (staffId : String) :
    r₁.db.staffRow? staffId = r.db.staffRow? staffId := by
  rw [h.db_eq]
  rfl

theorem processed_of_process (hcurrent : Current js r)
    (hsections : ∀ g ∈ groups, normalizeDisplayName g.sectionName = g.sectionName)
    (h : process js false users groups r = some r') : Processed js groups r r' := by
  induction groups generalizing r with
  | nil =>
    obtain rfl := Option.some.inj h
    exact ⟨hcurrent, fun _ _ h => h, fun k => by simp, rfl, fun _ _ => rfl⟩
  | cons g rest ih =>
    obtain ⟨r₁, unit, hdiscover, hrest⟩ := process_cons_eq_some.mp h
    have hd := discovered_of_discoverUnit hcurrent (hsections g List.mem_cons_self) hdiscover
    have hp := ih (current_recordGroup hd.current) (fun g hg => hsections g (List.mem_cons_of_mem _ hg)) hrest
    have hcollation : (recordGroup js false users g unit r₁).db.collation = r.db.collation :=
      collation_recordGroup.trans hd.collation
    refine ⟨hp.current, fun k e he => hp.kept k e (hd.kept k e he), fun k => ?_, hp.collation.trans hcollation, ?_⟩
    · rw [hp.known]
      show (r₁.unitMap.get k).isSome = true ∨ _ ↔ _
      rw [hd.known, or_assoc]
      simp only [List.mem_cons, exists_eq_or_imp]
    · intro staffId hothers
      rw [hp.others staffId fun later hlater => ?_, staffRow?_recordGroup_of_ne, hd.staffRow?]
      · rw [sameText_congr hd.collation]
        exact hothers g List.mem_cons_self
      · rw [sameText_congr hcollation]
        exact hothers later (List.mem_cons_of_mem _ hlater)

/-- What the first of some groups leaves in the directory, and what the others keep of it. -/
theorem row_of_first {rest : List Group} (hcurrent : Current js r)
    (hsections : ∀ later ∈ g :: rest, normalizeDisplayName later.sectionName = later.sectionName)
    (hdistinct : ((g :: rest).map fun g => r.db.collation.key g.staffId).Nodup)
    (h : process js false users (g :: rest) r = some r') :
    ∃ r₁ unit, Discovered js g r r₁ unit ∧ process js false users rest (recordGroup js false users g unit r₁) = some r' ∧
      Processed js rest (recordGroup js false users g unit r₁) r' ∧
      ∃ row, r'.db.staffRow? g.staffId = some row ∧ row = overwrite (groupValues js users g unit) row := by
  obtain ⟨r₁, unit, hdiscover, hrest⟩ := process_cons_eq_some.mp h
  have hd := discovered_of_discoverUnit hcurrent (hsections g List.mem_cons_self) hdiscover
  have hp := processed_of_process (current_recordGroup hd.current)
    (fun later hlater => hsections later (List.mem_cons_of_mem _ hlater)) hrest
  have hown : ∃ row, (recordGroup js false users g unit r₁).db.staffRow? g.staffId = some row ∧
      row = overwrite (groupValues js users g unit) row := staffRow?_recordGroup
  obtain ⟨row, hrow, hvalues⟩ := hown
  refine ⟨r₁, unit, hd, hrest, hp, row, ?_, hvalues⟩
  rw [hp.others g.staffId fun later hlater => ?_, hrow]
  rw [sameText_congr (collation_recordGroup.trans hd.collation)]
  rw [List.map_cons, List.nodup_cons] at hdistinct
  exact fun hsame => hdistinct.1 (hsame ▸ List.mem_map_of_mem hlater)

theorem keys_discovered (hkeys : ∀ k, (r.unitMap.get k).isSome = true ↔ k ∈ keys) (h : Discovered js g r r₁ unit) (k : String) :
    (r₁.unitMap.get k).isSome = true ↔ k ∈ if g.conflicting then keys else sectionKey js g :: keys := by
  rw [h.known, hkeys]
  cases g.conflicting with
  | true => simp
  | false => simp [or_comm]

theorem nodup_after {rest : List Group} (h : Discovered js g r r₁ unit)
    (hdistinct : ((g :: rest).map fun g => r.db.collation.key g.staffId).Nodup) :
    (rest.map fun later => (recordGroup js false users g unit r₁).db.collation.key later.staffId).Nodup := by
  rw [collation_recordGroup, h.collation]
  exact (List.nodup_cons.mp hdistinct).2

/-- Where no group in conflict misses a unit that comes later, each row holds the unit that its section has in the end. -/
theorem rows_of_prompt (hcurrent : Current js r)
    (hsections : ∀ g ∈ groups, normalizeDisplayName g.sectionName = g.sectionName)
    (hdistinct : (groups.map fun g => r.db.collation.key g.staffId).Nodup)
    (hkeys : ∀ k, (r.unitMap.get k).isSome = true ↔ k ∈ keys) (hprompt : Prompt js keys groups)
    (h : process js false users groups r = some r') :
    ∀ g ∈ groups, ∃ row, r'.db.staffRow? g.staffId = some row ∧
      row = overwrite (groupValues js users g (r'.unitMap.get (sectionKey js g))) row := by
  induction groups generalizing r keys with
  | nil => exact fun g hg => absurd hg List.not_mem_nil
  | cons g rest ih =>
    obtain ⟨hfirst, hlater⟩ := hprompt
    obtain ⟨r₁, unit, hd, hrest, hp, row, hrow, hvalues⟩ := row_of_first hcurrent hsections hdistinct h
    have hknown := keys_discovered hkeys hd
    have hrows := ih (current_recordGroup hd.current) (fun later hg => hsections later (List.mem_cons_of_mem _ hg))
      (nodup_after hd hdistinct) hknown hlater hrest
    intro later hg
    rcases List.mem_cons.mp hg with rfl | hg
    · refine ⟨row, hrow, ?_⟩
      have hunit : r'.unitMap.get (sectionKey js later) = unit := by
        rw [hd.unit_eq]
        cases hget : r₁.unitMap.get (sectionKey js later) with
        | some e => exact hp.kept _ e hget
        | none =>
          have hmissing : ¬ ((r.unitMap.get (sectionKey js later)).isSome = true ∨
              later.conflicting = false ∧ sectionKey js later = sectionKey js later) := by
            rw [← hd.known, hget]
            exact Bool.false_ne_true
          rw [not_or, hkeys] at hmissing
          have hconflicting : later.conflicting = true := by
            cases hc : later.conflicting with
            | true => rfl
            | false => exact absurd ⟨hc, rfl⟩ hmissing.2
          rw [← Option.not_isSome_iff_eq_none, hp.known]
          rintro (hsome | ⟨other, hother, hplain, hkey⟩)
          · rw [show (recordGroup js false users later unit r₁).unitMap = r₁.unitMap from rfl, hget] at hsome
            cases hsome
          · exact hfirst hconflicting hmissing.1 other hother hplain hkey.symm
      rw [hunit]
      exact hvalues
    · exact hrows later hg

/-- A row that has no unit, though its section has one in the end, is of a group in conflict that missed it. -/
theorem prompt_of_rows (hcurrent : Current js r)
    (hsections : ∀ g ∈ groups, normalizeDisplayName g.sectionName = g.sectionName)
    (hdistinct : (groups.map fun g => r.db.collation.key g.staffId).Nodup)
    (hkeys : ∀ k, (r.unitMap.get k).isSome = true ↔ k ∈ keys) (h : process js false users groups r = some r')
    (hrows : ∀ g ∈ groups, ∀ row, r'.db.staffRow? g.staffId = some row →
      row.unitId = (r'.unitMap.get (sectionKey js g)).bind UnitEntry.id) : Prompt js keys groups := by
  induction groups generalizing r keys with
  | nil => trivial
  | cons g rest ih =>
    obtain ⟨r₁, unit, hd, hrest, hp, row, hrow, hvalues⟩ := row_of_first hcurrent hsections hdistinct h
    have hknown := keys_discovered hkeys hd
    refine ⟨fun hconflicting hmissing later hlater hplain hkey => ?_, ih (current_recordGroup hd.current)
      (fun later hg => hsections later (List.mem_cons_of_mem _ hg)) (nodup_after hd hdistinct) hknown hrest
      fun later hg => hrows later (List.mem_cons_of_mem _ hg)⟩
    have hnone : unit = none := by
      rw [hd.unit_eq, ← Option.not_isSome_iff_eq_none, hd.known, hkeys]
      rintro (hmem | ⟨hplain, -⟩)
      · exact hmissing hmem
      · rw [hconflicting] at hplain
        cases hplain
    have hsome : (r'.unitMap.get (sectionKey js g)).isSome = true :=
      (hp.known _).mpr (.inr ⟨later, hlater, hplain, hkey.symm⟩)
    obtain ⟨e, he⟩ := Option.isSome_iff_exists.mp hsome
    obtain ⟨id, hid⟩ := id_of_unitMap (show (unitMap js r'.db.units).get (sectionKey js g) = some e from hp.current ▸ he)
    have hunitId := hrows g List.mem_cons_self row hrow
    rw [he, hvalues, hnone] at hunitId
    exact absurd (hunitId.trans hid) (Option.some_ne_none id).symm

/-! ## The accounts -/

theorem staffId_of_byStaff {user : User} {staffId : String} (h : byStaff users staffId = some user) :
    user.staffId = some staffId := by
  have hmem := (List.mem_filter.mp (List.mem_of_getLast? h)).2
  exact (Option.filter_eq_some_iff.mp (of_decide_eq_true hmem)).1

/-- A change of accounts that keeps the staff ids. -/
theorem byStaff_map {f : User → User} (hids : ∀ user, (f user).staffId = user.staffId) (staffId : String) :
    byStaff (users.map f) staffId = (byStaff users staffId).map f := by
  unfold byStaff
  rw [List.filter_map, List.getLast?_map]
  refine congrArg (fun p => Option.map f (users.filter p).getLast?) (funext fun user => ?_)
  show decide (truthy (f user).staffId = some staffId) = _
  rw [hids]

theorem unmatchedNames_map {f : User → User}
    (hf : ∀ user, f user = { user with positionFull := (f user).positionFull }) :
    unmatchedNames js (users.map f) = unmatchedNames js users := by
  unfold unmatchedNames
  rw [List.filter_map, List.map_map]
  have hids : ((fun user : User => decide (trim (user.staffId.getD "") = "")) ∘ f) =
      fun user : User => decide (trim (user.staffId.getD "") = "") := by
    funext user
    show decide (trim ((f user).staffId.getD "") = "") = _
    rw [hf]
  rw [hids]
  refine List.map_congr_left fun user _ => ?_
  show PendingRequesters.staffNameKey js (f user).firstName (f user).lastName = _
  rw [hf]

theorem newPosition_eq_some {existing : Option User} {user : User} {positionFull : String}
    (h : newPosition g existing = some (user, positionFull)) :
    existing = some user ∧ g.person.positionFull = some positionFull ∧ g.conflicting = false := by
  unfold newPosition at h
  obtain ⟨own, hexisting, h⟩ := Option.bind_eq_some_iff.mp h
  obtain ⟨position, hposition, h⟩ := Option.bind_eq_some_iff.mp h
  split_ifs at h with hnew
  obtain ⟨rfl, rfl⟩ := Prod.ext_iff.mp (Option.some.inj h)
  exact ⟨hexisting, hposition, hnew.1⟩

/-- An account with the position of its group. -/
def placed (g : Group) (user : User) : User :=
  if g.conflicting then user else { user with positionFull := g.person.positionFull <|> user.positionFull }

theorem placed_eq (user : User) : placed g user = { user with positionFull := (placed g user).positionFull } := by
  unfold placed
  split_ifs <;> rfl

theorem newPosition_placed (existing : Option User) : newPosition g (existing.map (placed g)) = none := by
  cases existing with
  | none => rfl
  | some user =>
    unfold newPosition placed
    cases hconflicting : g.conflicting with
    | true => cases g.person.positionFull <;> simp
    | false => cases g.person.positionFull <;> simp

/-- What a new position does to the accounts. -/
structure Positioned (g : Group) (db db' : Desk) : Prop where
  changed : ∃ f : User → User, db'.users = db.users.map f ∧
    ∀ user, f user = { user with positionFull := (f user).positionFull }
  own : byStaff db'.users g.staffId = (byStaff db.users g.staffId).map (placed g)
  others : ∀ staffId, ¬ db.sameText g.staffId staffId → byStaff db'.users staffId = byStaff db.users staffId

theorem positioned_writePosition {db : Desk} : Positioned g db (writePosition g (byStaff db.users g.staffId) db) := by
  unfold writePosition
  cases hnew : newPosition g (byStaff db.users g.staffId) with
  | none =>
    refine ⟨⟨id, (List.map_id _).symm, fun _ => rfl⟩, ?_, fun _ _ => rfl⟩
    show byStaff db.users g.staffId = _
    cases hown : byStaff db.users g.staffId with
    | none => rfl
    | some user =>
      rw [hown] at hnew
      rw [Option.map_some]
      unfold newPosition at hnew
      unfold placed
      cases hconflicting : g.conflicting with
      | true => rfl
      | false =>
        cases hposition : g.person.positionFull with
        | none => rfl
        | some positionFull =>
          have hsame : some positionFull = user.positionFull := by
            by_contra hne
            simp [hposition, hconflicting, hne] at hnew
          rw [if_neg Bool.false_ne_true]
          show some user = some { user with positionFull := some positionFull }
          rw [hsame]
  | some new =>
    obtain ⟨user, positionFull⟩ := new
    obtain ⟨hown, hposition, hconflicting⟩ := newPosition_eq_some hnew
    have hids : ∀ other : User, (if other.id = user.id ∧ other.staffId.any (fun own => db.sameText own g.staffId) then
        { other with positionFull := some positionFull } else other).staffId = other.staffId := by
      intro other
      split_ifs <;> rfl
    refine ⟨⟨_, rfl, fun other => ?_⟩, ?_, fun staffId hne => ?_⟩
    · split_ifs <;> rfl
    · refine (byStaff_map hids g.staffId).trans ?_
      rw [hown, Option.map_some, Option.map_some, if_pos]
      · unfold placed
        rw [if_neg (by rw [hconflicting]; exact Bool.false_ne_true), hposition]
        rfl
      · rw [staffId_of_byStaff hown]
        exact ⟨rfl, decide_eq_true rfl⟩
    · refine (byStaff_map hids staffId).trans ?_
      cases hother : byStaff db.users staffId with
      | none => rfl
      | some other =>
        rw [Option.map_some, if_neg]
        rintro ⟨-, hsame⟩
        rw [staffId_of_byStaff hother] at hsame
        exact hne (of_decide_eq_true hsame).symm

/-- What a loop over some groups does to the accounts. -/
structure Settled (groups : List Group) (db db' : Desk) : Prop where
  changed : ∃ f : User → User, db'.users = db.users.map f ∧
    ∀ user, f user = { user with positionFull := (f user).positionFull }
  own : ∀ g ∈ groups, byStaff db'.users g.staffId = (byStaff db.users g.staffId).map (placed g)
  others : ∀ staffId, (∀ g ∈ groups, ¬ db.sameText g.staffId staffId) →
    byStaff db'.users staffId = byStaff db.users staffId

theorem settled_of_process (hcurrent : Current js r)
    (hsections : ∀ g ∈ groups, normalizeDisplayName g.sectionName = g.sectionName)
    (hdistinct : (groups.map fun g => r.db.collation.key g.staffId).Nodup)
    (hread : ∀ g ∈ groups, byStaff users g.staffId = byStaff r.db.users g.staffId)
    (h : process js false users groups r = some r') : Settled groups r.db r'.db := by
  induction groups generalizing r with
  | nil =>
    obtain rfl := Option.some.inj h
    exact ⟨⟨id, (List.map_id _).symm, fun _ => rfl⟩, fun g hg => absurd hg List.not_mem_nil, fun _ _ => rfl⟩
  | cons g rest ih =>
    obtain ⟨r₁, unit, hd, hrest, -⟩ := row_of_first hcurrent hsections hdistinct h
    have husers : r₁.db.users = r.db.users := by rw [hd.db_eq]
    have hsame : ∀ a b, r₁.db.sameText a b ↔ r.db.sameText a b := sameText_congr hd.collation
    have hfirst : Positioned g r₁.db (recordGroup js false users g unit r₁).db := by
      have hown : byStaff users g.staffId = byStaff r₁.db.users g.staffId := by
        rw [husers]
        exact hread g List.mem_cons_self
      have hposition : Positioned g r₁.db (writePosition g (byStaff r₁.db.users g.staffId) r₁.db) :=
        positioned_writePosition
      rw [← hown] at hposition
      exact ⟨hposition.changed, hposition.own, hposition.others⟩
    obtain ⟨hother, -⟩ := List.nodup_cons.mp hdistinct
    have hne : ∀ later ∈ rest, ¬ r.db.sameText later.staffId g.staffId := fun later hlater hkey =>
      hother (List.mem_map.mpr ⟨later, hlater, hkey⟩)
    have hkept : ∀ later ∈ rest, byStaff (recordGroup js false users g unit r₁).db.users later.staffId =
        byStaff r.db.users later.staffId := by
      intro later hlater
      rw [hfirst.others later.staffId (by rw [hsame]; exact fun hkey => hne later hlater hkey.symm), husers]
    have hlater := ih (current_recordGroup hd.current) (fun later hg => hsections later (List.mem_cons_of_mem _ hg))
      (nodup_after hd hdistinct) (fun later hg => by rw [hkept later hg]; exact hread later (List.mem_cons_of_mem _ hg))
      hrest
    have hsame' : ∀ a b, (recordGroup js false users g unit r₁).db.sameText a b ↔ r.db.sameText a b :=
      sameText_congr (collation_recordGroup.trans hd.collation)
    refine ⟨?_, ?_, ?_⟩
    · obtain ⟨f, hf, hpositions⟩ := hfirst.changed
      obtain ⟨f', hf', hpositions'⟩ := hlater.changed
      refine ⟨f' ∘ f, ?_, fun user => ?_⟩
      · rw [hf', hf, husers, List.map_map]
      · show f' (f user) = { user with positionFull := (f' (f user)).positionFull }
        rw [hpositions', hpositions]
    · intro later hg
      rcases List.mem_cons.mp hg with rfl | hg
      · rw [hlater.others _ fun other hg => by rw [hsame']; exact hne other hg, hfirst.own, husers]
      · rw [hlater.own later hg, hkept later hg]
    · intro staffId hothers
      rw [hlater.others staffId fun later hg => by rw [hsame']; exact hothers later (List.mem_cons_of_mem _ hg),
        hfirst.others staffId (by rw [hsame]; exact hothers g List.mem_cons_self), husers]

/-- The rows that a run writes do not depend on the positions. -/
theorem groupValues_settled {db db' : Desk} (h : Settled groups db db') (hg : g ∈ groups) :
    groupValues js db'.users g unit = groupValues js db.users g unit := by
  obtain ⟨f, hf, hpositions⟩ := h.changed
  have hnames : unmatchedNames js db'.users = unmatchedNames js db.users := by
    rw [hf, unmatchedNames_map hpositions]
  unfold groupValues
  rw [hnames, h.own g hg]
  cases byStaff db.users g.staffId with
  | none => rfl
  | some user =>
    show staffValues g (some (placed g user)) _ unit = staffValues g (some user) _ unit
    unfold staffValues
    rw [Option.map_some, placed_eq]
    rfl

/-! ## A preview -/

/-- What a run reads of a unit, its id apart. -/
def UnitEntry.flags (e : UnitEntry) : Bool × Bool := (e.active, e.hasReportorialRequirements)

/-- What a preview holds beside what the run holds: the same units, some of them without id. -/
structure Shadow (groups : List Group) (r p : Progress) : Prop where
  units : ∀ k, (p.unitMap.get k).map UnitEntry.flags = (r.unitMap.get k).map UnitEntry.flags
  rows : ∀ g ∈ groups, (p.db.staffRow? g.staffId).isNone = (r.db.staffRow? g.staffId).isNone
  result : p.result = r.result

theorem reviewReason_congr {existing : Option User} {names : List String} {unit unit' : Option UnitEntry}
    (h : unit'.map UnitEntry.flags = unit.map UnitEntry.flags) :
    reviewReason js g existing names unit' = reviewReason js g existing names unit := by
  cases unit with
  | none =>
    obtain rfl : unit' = none := Option.map_eq_none_iff.mp h
    rfl
  | some e =>
    obtain ⟨e', rfl, he⟩ := Option.map_eq_some_iff.mp h
    obtain ⟨id, active, reportorial⟩ := e
    obtain ⟨id', active', reportorial'⟩ := e'
    obtain ⟨rfl, rfl⟩ := Prod.ext_iff.mp he
    rfl

theorem discoverUnit_preview {p : Progress} (hshadow : Shadow groups r p) (h : discoverUnit js false g r = some (r₁, unit)) :
    ∃ p₁ unit', discoverUnit js true g p = some (p₁, unit') ∧ Shadow groups r₁ p₁ ∧
      unit'.map UnitEntry.flags = unit.map UnitEntry.flags := by
  have hflags := hshadow.units (sectionKey js g)
  unfold discoverUnit at h ⊢
  cases hget : r.unitMap.get (sectionKey js g) with
  | some e =>
    rw [hget] at h hflags
    obtain ⟨rfl, rfl⟩ := Prod.ext_iff.mp (Option.some.inj h)
    obtain ⟨e', he', -⟩ := Option.map_eq_some_iff.mp hflags
    rw [he'] at hflags ⊢
    exact ⟨p, some e', rfl, hshadow, hflags⟩
  | none =>
    rw [hget] at h hflags
    rw [Option.map_eq_none_iff.mp hflags]
    cases hconflicting : g.conflicting with
    | true =>
      simp only [hconflicting, if_true] at h
      obtain ⟨rfl, rfl⟩ := Prod.ext_iff.mp (Option.some.inj h)
      exact ⟨p, none, rfl, hshadow, rfl⟩
    | false =>
      simp only [hconflicting, Bool.false_eq_true, if_false] at h
      obtain ⟨db, hdb, h⟩ := Option.bind_eq_some_iff.mp h
      unfold insertUnit at hdb
      split_ifs at hdb with hfresh
      obtain rfl := Option.some.inj hdb
      obtain ⟨rfl, rfl⟩ := Prod.ext_iff.mp (Option.some.inj h)
      refine ⟨_, _, rfl, ⟨fun k => ?_, hshadow.rows, ?_⟩, rfl⟩
      · show ((p.unitMap.set _ _).get k).map _ = ((r.unitMap.set _ _).get k).map _
        rw [OrderedMap.get_set, OrderedMap.get_set]
        by_cases hk : k = sectionKey js g
        · rw [if_pos hk, if_pos hk]
          rfl
        · rw [if_neg hk, if_neg hk]
          exact hshadow.units k
      · exact congrArg (fun result : SyncResult => { result with discoveredUnits := result.discoveredUnits + 1 })
          hshadow.result

/-- What the run does, a preview counts. -/
theorem exists_preview {p : Progress} (hcurrent : Current js r)
    (hsections : ∀ g ∈ groups, normalizeDisplayName g.sectionName = g.sectionName)
    (hdistinct : (groups.map fun g => r.db.collation.key g.staffId).Nodup) (hshadow : Shadow groups r p)
    (h : process js false users groups r = some r') :
    ∃ p', process js true users groups p = some p' ∧ p'.result = r'.result := by
  induction groups generalizing r p with
  | nil =>
    obtain rfl := Option.some.inj h
    exact ⟨p, rfl, hshadow.result⟩
  | cons g rest ih =>
    obtain ⟨r₁, unit, hdiscover, hrest⟩ := process_cons_eq_some.mp h
    have hd := discovered_of_discoverUnit hcurrent (hsections g List.mem_cons_self) hdiscover
    obtain ⟨p₁, unit', hpreview, hshadow₁, hflags⟩ := discoverUnit_preview hshadow hdiscover
    obtain ⟨hother, -⟩ := List.nodup_cons.mp hdistinct
    have hnext : Shadow rest (recordGroup js false users g unit r₁) (recordGroup js true users g unit' p₁) := by
      refine ⟨hshadow₁.units, fun later hlater => ?_, ?_⟩
      · have hne : ¬ r₁.db.sameText g.staffId later.staffId := by
          rw [sameText_congr hd.collation]
          exact fun hsame => hother (List.mem_map.mpr ⟨later, hlater, hsame.symm⟩)
        rw [staffRow?_recordGroup_of_ne hne]
        exact hshadow₁.rows later (List.mem_cons_of_mem _ hlater)
      · show tally g _ _ _ p₁.result = tally g _ _ _ r₁.result
        unfold tally
        rw [hshadow₁.rows g List.mem_cons_self, hshadow₁.result, reviewReason_congr hflags]
    obtain ⟨p', hp', hresult⟩ := ih (current_recordGroup hd.current)
      (fun later hg => hsections later (List.mem_cons_of_mem _ hg)) (nodup_after hd hdistinct) hnext hrest
    exact ⟨p', process_cons_eq_some.mpr ⟨p₁, unit', hpreview, hp'⟩, hresult⟩

/-! ## The names of new units -/

/-- New names that differ as the database compares them, from each other and from those of the units. -/
def Fresh (db : Desk) (names : List String) : Prop :=
  (names.map db.collation.key).Nodup ∧ ∀ name ∈ names, ∀ unit ∈ db.units, ¬ db.sameText name unit.name

instance (db : Desk) (names : List String) : Decidable (Fresh db names) := inferInstanceAs (Decidable (_ ∧ _))

theorem fresh_cons {db : Desk} {name : String} {names : List String} (id : Nat) :
    Fresh db (name :: names) ↔ (∀ unit ∈ db.units, ¬ db.sameText name unit.name) ∧
      Fresh { db with units := db.units ++ [{ id, name }] } names := by
  unfold Fresh
  rw [List.map_cons, List.nodup_cons, List.forall_mem_cons]
  have hunits : (∀ other ∈ names, ∀ unit ∈ db.units ++ [{ id, name : UnitRow }], ¬ db.sameText other unit.name) ↔
      (∀ other ∈ names, ∀ unit ∈ db.units, ¬ db.sameText other unit.name) ∧
        db.collation.key name ∉ names.map db.collation.key := by
    simp only [List.forall_mem_append, List.forall_mem_singleton, forall_and, List.mem_map, not_exists, not_and]
    exact and_congr_right fun _ => Iff.rfl
  show _ ↔ _ ∧ (names.map db.collation.key).Nodup ∧
    ∀ other ∈ names, ∀ unit ∈ db.units ++ [{ id, name : UnitRow }], ¬ db.sameText other unit.name
  rw [hunits]
  tauto

theorem fresh_congr {db db' : Desk} {names : List String} (hcollation : db'.collation = db.collation)
    (hunits : db'.units = db.units) : Fresh db' names ↔ Fresh db names := by
  unfold Fresh Desk.sameText
  rw [hcollation, hunits]

theorem process_cons {dryRun : Bool} {rest : List Group} (h : discoverUnit js dryRun g r = some (r₁, unit)) :
    process js dryRun users (g :: rest) r = process js dryRun users rest (recordGroup js dryRun users g unit r₁) := by
  show (processGroup js dryRun users r g).bind (process js dryRun users rest) = _
  unfold processGroup
  rw [h]
  rfl

/-- A run fails only where the name of a new unit is taken. -/
theorem process_isSome_iff (hcurrent : Current js r)
    (hsections : ∀ g ∈ groups, normalizeDisplayName g.sectionName = g.sectionName)
    (hkeys : ∀ k, (r.unitMap.get k).isSome = true ↔ k ∈ keys) :
    (process js false users groups r).isSome = true ↔ Fresh r.db (newSections js keys groups) := by
  induction groups generalizing r keys with
  | nil => exact ⟨fun _ => ⟨List.nodup_nil, fun name hname => absurd hname List.not_mem_nil⟩, fun _ => rfl⟩
  | cons g rest ih =>
    have hlater : ∀ later ∈ rest, normalizeDisplayName later.sectionName = later.sectionName := fun later hg =>
      hsections later (List.mem_cons_of_mem _ hg)
    have hsame : ∀ unit, Fresh (recordGroup js false users g unit r).db (newSections js keys rest) ↔
        Fresh r.db (newSections js keys rest) := fun unit => fresh_congr collation_recordGroup units_recordGroup
    unfold newSections
    cases hget : r.unitMap.get (sectionKey js g) with
    | some e =>
      have hdiscover : discoverUnit js false g r = some (r, some e) := by
        unfold discoverUnit
        rw [hget]
      rw [process_cons hdiscover, ih (current_recordGroup hcurrent) hlater hkeys, hsame, if_pos]
      exact .inr ((hkeys _).mp (by rw [hget]; rfl))
    | none =>
      cases hconflicting : g.conflicting with
      | true =>
        have hdiscover : discoverUnit js false g r = some (r, none) := by
          unfold discoverUnit
          rw [hget, hconflicting]
          rfl
        rw [process_cons hdiscover, ih (current_recordGroup hcurrent) hlater hkeys, hsame, if_pos (.inl rfl)]
      | false =>
        have hmissing : ¬ (false = true ∨ sectionKey js g ∈ keys) := by
          rw [← hkeys, hget]
          simp
        rw [if_neg hmissing, fresh_cons (nextUnitId r.db.units)]
        by_cases hfresh : ∀ unit ∈ r.db.units, ¬ r.db.sameText g.sectionName unit.name
        · obtain ⟨r₁, unit, hdiscover, hdb⟩ : ∃ r₁ unit, discoverUnit js false g r = some (r₁, unit) ∧
              r₁.db = { r.db with units := r.db.units ++ [{ id := nextUnitId r.db.units, name := g.sectionName }] } := by
            unfold discoverUnit insertUnit
            rw [hget, if_neg (by rw [hconflicting]; exact Bool.false_ne_true), if_pos hfresh]
            exact ⟨_, _, rfl, rfl⟩
          have hd := discovered_of_discoverUnit hcurrent (hsections g List.mem_cons_self) hdiscover
          have hknown := keys_discovered hkeys hd
          rw [hconflicting, if_neg Bool.false_ne_true] at hknown
          rw [process_cons hdiscover, ih (current_recordGroup hd.current) hlater hknown,
            fresh_congr collation_recordGroup units_recordGroup, hdb]
          exact (and_iff_right hfresh).symm
        · refine iff_of_false (fun hsome => hfresh ?_) fun h => hfresh h.1
          obtain ⟨r', h⟩ := Option.isSome_iff_exists.mp hsome
          obtain ⟨r₁, unit, hdiscover, -⟩ := process_cons_eq_some.mp h
          unfold discoverUnit insertUnit at hdiscover
          rw [hget, if_neg (by rw [hconflicting]; exact Bool.false_ne_true), if_neg hfresh] at hdiscover
          cases hdiscover

/-! ## A second run -/

/-- Where every unit is there, every position is set and every row is written, a run changes nothing. -/
theorem process_settled (hunits : ∀ g ∈ groups, g.conflicting = false → (r.unitMap.get (sectionKey js g)).isSome = true)
    (hpositions : ∀ g ∈ groups, newPosition g (byStaff users g.staffId) = none)
    (hrows : ∀ g ∈ groups, ∃ row, r.db.staffRow? g.staffId = some row ∧
      row = overwrite (groupValues js users g (r.unitMap.get (sectionKey js g))) row) :
    ∃ reviewed, process js false users groups r =
      some { r with result := { r.result with reviewRequired := reviewed } } := by
  induction groups generalizing r with
  | nil => exact ⟨r.result.reviewRequired, rfl⟩
  | cons g rest ih =>
    have hdiscover : discoverUnit js false g r = some (r, r.unitMap.get (sectionKey js g)) := by
      unfold discoverUnit
      cases hget : r.unitMap.get (sectionKey js g) with
      | some e => rfl
      | none =>
        have hconflicting : g.conflicting = true := by
          by_contra hplain
          have hsome := hunits g List.mem_cons_self (Bool.eq_false_iff.mpr hplain)
          rw [hget] at hsome
          cases hsome
        rw [hconflicting]
        rfl
    obtain ⟨row, hrow, hvalues⟩ := hrows g List.mem_cons_self
    have hposition := hpositions g List.mem_cons_self
    have hdb : upsertStaff (groupValues js users g (r.unitMap.get (sectionKey js g)))
        (writePosition g (byStaff users g.staffId) r.db) = r.db := by
      unfold writePosition
      rw [hposition]
      exact upsertStaff_eq_self hrow hvalues
    have htally : ∀ reason, tally g (byStaff users g.staffId) reason (r.db.staffRow? g.staffId) r.result =
        { r.result with reviewRequired := r.result.reviewRequired + one reason.isSome } := by
      intro reason
      unfold tally
      rw [hposition, hrow]
      rfl
    have hrecord : recordGroup js false users g (r.unitMap.get (sectionKey js g)) r = {
        r with
        db := upsertStaff (groupValues js users g (r.unitMap.get (sectionKey js g)))
          (writePosition g (byStaff users g.staffId) r.db)
        result := tally g (byStaff users g.staffId) (reviewReason js g (byStaff users g.staffId) (unmatchedNames js users)
          (r.unitMap.get (sectionKey js g))) (r.db.staffRow? g.staffId) r.result } := rfl
    rw [process_cons hdiscover, hrecord, hdb, htally]
    exact ih (fun later hg => hunits later (List.mem_cons_of_mem _ hg))
      (fun later hg => hpositions later (List.mem_cons_of_mem _ hg)) fun later hg => hrows later (List.mem_cons_of_mem _ hg)

end

/-! ## The groups of a source -/

section
variable {source : List SourceRow} {g : Group}

theorem normalizeDisplayName_of_norm {value : Option String} {text : String} (h : norm value = some text) :
    normalizeDisplayName text = text := by
  unfold norm truthy at h
  obtain ⟨htext, -⟩ := Option.filter_eq_some_iff.mp h
  rw [← Option.some.inj htext]
  exact normalizeDisplayName_normalizeDisplayName _

/-- The rows of a staff id are valid rows with that staff id. -/
theorem rows_of_grouped {entry : String × List SourceRow} (h : entry ∈ (grouped source).entries) :
    ∀ p ∈ entry.2, ∃ raw, p = normalize raw ∧ isInvalid p = false ∧ p.staffId.getD "" = entry.1 := by
  have hrow : ∀ p ∈ (source.map normalize).filter (fun p => !isInvalid p), ∃ raw, p = normalize raw ∧ isInvalid p = false := by
    intro p hp
    obtain ⟨hmem, hvalid⟩ := List.mem_filter.mp hp
    obtain ⟨raw, -, rfl⟩ := List.mem_map.mp hmem
    exact ⟨raw, rfl, by simpa using hvalid⟩
  refine OrderedMap.collect_always_keyed (I := fun staffId rows => ∀ p ∈ rows, ∃ raw, p = normalize raw ∧
    isInvalid p = false ∧ p.staffId.getD "" = staffId) (fun p hp other hother => ?_) (fun rows p hp hrows other hother => ?_) h
  · obtain rfl := List.mem_singleton.mp hother
    obtain ⟨raw, hraw, hvalid⟩ := hrow other hp
    exact ⟨raw, hraw, hvalid, rfl⟩
  · rcases List.mem_append.mp hother with hother | hother
    · exact hrows other hother
    · obtain rfl := List.mem_singleton.mp hother
      obtain ⟨raw, hraw, hvalid⟩ := hrow other hp
      exact ⟨raw, hraw, hvalid, rfl⟩

theorem toGroup_eq_some {staffId : String} {rows : List SourceRow} (h : toGroup staffId rows = some g) :
    g.staffId = staffId ∧ g.person ∈ rows := by
  cases rows with
  | nil => cases h
  | cons person rest =>
    obtain rfl := Option.some.inj h
    exact ⟨rfl, List.mem_cons_self⟩

theorem person_of_groups (h : g ∈ groups source) :
    ∃ raw, g.person = normalize raw ∧ isInvalid g.person = false ∧ g.person.staffId.getD "" = g.staffId := by
  obtain ⟨⟨staffId, rows⟩, hentry, hgroup⟩ := List.mem_filterMap.mp h
  obtain ⟨hstaffId, hperson⟩ := toGroup_eq_some hgroup
  rw [hstaffId]
  exact rows_of_grouped hentry g.person hperson

theorem isStaffId_of_groups (h : g ∈ groups source) : isStaffId g.staffId = true := by
  obtain ⟨raw, -, hvalid, hstaffId⟩ := person_of_groups h
  simp only [isInvalid, Bool.or_eq_false_iff] at hvalid
  rw [← hstaffId]
  simpa using hvalid.1.1.1.1.1

theorem sectionName_of_groups (h : g ∈ groups source) : normalizeDisplayName g.sectionName = g.sectionName := by
  obtain ⟨raw, hraw, hvalid, -⟩ := person_of_groups h
  simp only [isInvalid, Bool.or_eq_false_iff] at hvalid
  obtain ⟨text, htext⟩ := Option.isSome_iff_exists.mp (by simpa using hvalid.1.1.2)
  unfold Group.sectionName
  rw [htext, Option.getD_some]
  simp only [hraw, normalize] at htext
  exact normalizeDisplayName_of_norm htext

theorem nodup_groups : ((groups source).map Group.staffId).Nodup := by
  have hsub : ∀ entries : List (String × List SourceRow),
      ((entries.filterMap fun (staffId, rows) => toGroup staffId rows).map Group.staffId).Sublist (entries.map Prod.fst) := by
    intro entries
    induction entries with
    | nil => exact List.Sublist.slnil
    | cons entry rest ih =>
      obtain ⟨staffId, rows⟩ := entry
      rw [List.filterMap_cons]
      dsimp only
      cases hgroup : toGroup staffId rows with
      | none => exact ih.cons _
      | some g =>
        rw [List.map_cons, List.map_cons, (toGroup_eq_some hgroup).1]
        exact ih.cons_cons _
  exact (hsub _).nodup (grouped source).nodup

end

/-! ## Main result -/

section
variable {js : Runtime} {source : List SourceRow} {db db' : Desk} {result : SyncResult} {r : Progress}

theorem run_eq_some {dryRun : Bool} : run js dryRun source db = some (result, db') ↔
    ∃ r, process js dryRun db.users (groups source) (start js source db) = some r ∧ r.result = result ∧
      (if dryRun then db else withdraw ((groups source).map Group.staffId) r.db) = db' := by
  unfold run
  rw [Option.bind_eq_bind, Option.bind_eq_some_iff]
  simp only [Option.some.injEq, Prod.mk.injEq]

theorem current_start : Current js (start js source db) := rfl

theorem known_start (k : String) :
    ((start js source db).unitMap.get k).isSome = true ↔ k ∈ db.units.map (unitKey js) := get_unitMap_isSome

theorem distinct_groups
    (hdigits : ∀ a b, isStaffId a = true → isStaffId b = true → db.collation.key a = db.collation.key b → a = b) :
    ((groups source).map fun g => db.collation.key g.staffId).Nodup := by
  refine List.Nodup.map_on (fun g hg other hother hkey => ?_) (List.Nodup.of_map _ nodup_groups)
  exact List.inj_on_of_nodup_map nodup_groups hg hother
    (hdigits _ _ (isStaffId_of_groups hg) (isStaffId_of_groups hother) hkey)

theorem prompt_of_known {keys : List String} {groups : List Group}
    (h : ∀ g ∈ groups, g.conflicting = false → sectionKey js g ∈ keys) : Prompt js keys groups := by
  induction groups generalizing keys with
  | nil => trivial
  | cons g rest ih =>
    refine ⟨fun _ hmissing later hlater hplain hkey => hmissing ?_, ih fun later hlater hplain => ?_⟩
    · exact hkey ▸ h later (List.mem_cons_of_mem _ hlater) hplain
    · have hknown := h later (List.mem_cons_of_mem _ hlater) hplain
      split_ifs
      · exact hknown
      · exact List.mem_cons_of_mem _ hknown

/-- What a second run starts from. -/
structure Rerun (js : Runtime) (source : List SourceRow) (db : Desk) (r : Progress) (second : Desk) : Prop where
  units : (start js source second).unitMap = r.unitMap
  unitsKnown : ∀ g ∈ groups source, g.conflicting = false → (r.unitMap.get (sectionKey js g)).isSome = true
  positions : ∀ g ∈ groups source, newPosition g (byStaff second.users g.staffId) = none
  rows : ∀ g ∈ groups source, second.staffRow? g.staffId = r.db.staffRow? g.staffId
  values : ∀ g ∈ groups source, ∀ unit, groupValues js second.users g unit = groupValues js db.users g unit

theorem rerun_of_process
    (hdistinct : ((groups source).map fun g => db.collation.key g.staffId).Nodup)
    (h : process js false db.users (groups source) (start js source db) = some r) :
    Rerun js source db r (withdraw ((groups source).map Group.staffId) r.db) := by
  have hsections : ∀ g ∈ groups source, normalizeDisplayName g.sectionName = g.sectionName := fun g => sectionName_of_groups
  have hp := processed_of_process current_start hsections h
  have hs : Settled (groups source) db r.db := settled_of_process current_start hsections hdistinct (fun _ _ => rfl) h
  refine ⟨hp.current.symm, fun g hg hplain => (hp.known _).mpr (.inr ⟨g, hg, hplain, rfl⟩), fun g hg => ?_, fun g hg => ?_,
    fun g hg unit => ?_⟩
  · show newPosition g (byStaff r.db.users g.staffId) = none
    rw [hs.own g hg]
    exact newPosition_placed _
  · exact staffRow?_withdraw (List.mem_map_of_mem hg)
  · show groupValues js r.db.users g unit = groupValues js db.users g unit
    exact groupValues_settled hs hg

/-- Where a second run changes nothing, the rows hold the units that their sections have. -/
theorem unitId_of_rerun {second : Desk} {r' : Progress} (hrerun : Rerun js source db r second)
    (hcurrent : Current js r) (hsecond : second.units = r.db.units)
    (hdistinct : ((groups source).map fun g => second.collation.key g.staffId).Nodup)
    (h : process js false second.users (groups source) (start js source second) = some r')
    (hsame : withdraw ((groups source).map Group.staffId) r'.db = second) {g : Group} (hg : g ∈ groups source)
    {row : StaffRow} (hrow : r.db.staffRow? g.staffId = some row) :
    row.unitId = (r.unitMap.get (sectionKey js g)).bind UnitEntry.id := by
  have hsections : ∀ g ∈ groups source, normalizeDisplayName g.sectionName = g.sectionName := fun g => sectionName_of_groups
  have hprompt : Prompt js (second.units.map (unitKey js)) (groups source) := prompt_of_known fun g hg hplain => by
    have hknown : ((start js source second).unitMap.get (sectionKey js g)).isSome = true := by
      rw [hrerun.units]
      exact hrerun.unitsKnown g hg hplain
    exact (known_start _).mp hknown
  have hunits : r'.unitMap = r.unitMap := by
    have hafter : (withdraw ((groups source).map Group.staffId) r'.db).units = second.units := by rw [hsame]
    have hcurrent' : r'.unitMap = unitMap js (withdraw ((groups source).map Group.staffId) r'.db).units :=
      (processed_of_process current_start hsections h).current
    rw [hcurrent', hafter, hsecond, ← hcurrent]
  obtain ⟨own, hown, hvalues⟩ := rows_of_prompt current_start hsections hdistinct known_start hprompt h g hg
  have hfound : r'.db.staffRow? g.staffId = some row := by
    rw [← staffRow?_withdraw (List.mem_map_of_mem hg), hsame, hrerun.rows g hg, hrow]
  obtain rfl := Option.some.inj (hown.symm.trans hfound)
  rw [hvalues, hunits]
  rfl

theorem isSome_start_iff : (process js false db.users (groups source) (start js source db)).isSome = true ↔
    Fresh db (newSections js (db.units.map (unitKey js)) (groups source)) :=
  process_isSome_iff current_start (fun _ => sectionName_of_groups) known_start

theorem prompt_of_converges
    (hdigits : ∀ a b, isStaffId a = true → isStaffId b = true → db.collation.key a = db.collation.key b → a = b)
    (h : Converges js source db) : Prompt js (db.units.map (unitKey js)) (groups source) := by
  obtain ⟨result, db', hrun, -, second, hsecond, -⟩ := h
  obtain ⟨r, hr, -, rfl⟩ := run_eq_some.mp hrun
  obtain ⟨r', hr', -, hsame⟩ := run_eq_some.mp hsecond
  have hsections : ∀ g ∈ groups source, normalizeDisplayName g.sectionName = g.sectionName := fun g => sectionName_of_groups
  have hdistinct : ((groups source).map fun g => db.collation.key g.staffId).Nodup := distinct_groups hdigits
  have hp := processed_of_process current_start hsections hr
  have hdistinct' : ((groups source).map fun g => r.db.collation.key g.staffId).Nodup := by
    rw [hp.collation]
    exact hdistinct
  exact prompt_of_rows current_start hsections hdistinct known_start hr fun g hg row hrow =>
    unitId_of_rerun (rerun_of_process hdistinct hr) hp.current rfl hdistinct' hr' hsame hg hrow

/-- A run converges exactly if the names of its new units are free, and no group in conflict comes before the one that makes
the unit of its section. -/
theorem converges_iff
    (hdigits : ∀ a b, isStaffId a = true → isStaffId b = true → db.collation.key a = db.collation.key b → a = b) :
    Converges js source db ↔ Fresh db (newSections js (db.units.map (unitKey js)) (groups source)) ∧
      Prompt js (db.units.map (unitKey js)) (groups source) := by
  constructor
  · intro h
    refine ⟨?_, prompt_of_converges hdigits h⟩
    obtain ⟨result, db', hrun, -⟩ := h
    obtain ⟨r, hr, -⟩ := run_eq_some.mp hrun
    exact isSome_start_iff.mp (Option.isSome_iff_exists.mpr ⟨r, hr⟩)
  · rintro ⟨hfresh, hprompt⟩
    obtain ⟨r, hr⟩ := Option.isSome_iff_exists.mp (isSome_start_iff.mpr hfresh)
    have hsections : ∀ g ∈ groups source, normalizeDisplayName g.sectionName = g.sectionName := fun g =>
      sectionName_of_groups
    have hdistinct : ((groups source).map fun g => db.collation.key g.staffId).Nodup := distinct_groups hdigits
    have hrerun := rerun_of_process hdistinct hr
    obtain ⟨p, hp, hresult⟩ := exists_preview current_start hsections hdistinct ⟨fun _ => rfl, fun _ _ => rfl, rfl⟩ hr
    have hrows := rows_of_prompt current_start hsections hdistinct known_start hprompt hr
    obtain ⟨reviewed, hsecond⟩ := process_settled
      (r := start js source (withdraw ((groups source).map Group.staffId) r.db))
      (by rw [hrerun.units]; exact hrerun.unitsKnown) hrerun.positions fun g hg => by
        obtain ⟨row, hrow, hvalues⟩ := hrows g hg
        rw [hrerun.units, hrerun.values g hg]
        exact ⟨row, (hrerun.rows g hg).trans hrow, hvalues⟩
    exact ⟨r.result, _, run_eq_some.mpr ⟨r, hr, rfl, rfl⟩, run_eq_some.mpr ⟨p, hp, hresult, rfl⟩, _,
      run_eq_some.mpr ⟨_, hsecond, rfl, withdraw_withdraw⟩, rfl, rfl, rfl⟩

end

/-! ## A section without unit -/

def recordsOfficer : SourceRow where
  staffId := some "31"
  firstName := some "ana"
  lastName := some "cruz"
  positionFull := some "records  officer"
  sectionName := some "records"

/-- A row of a staff member who is in the source under two last names. -/
def messenger (lastName : String) : SourceRow where
  staffId := some "12"
  firstName := some "ben"
  lastName := some lastName
  sectionName := some " records"

/-- A desk without units, and with an account for one staff member. -/
def newDesk : Desk where
  collation := PendingRequesters.exact
  users := [{ id := 1, email := "ana@example.org", staffId := some "31", positionFull := some "clerk", role := .user }]
  staff := []
  staffKey := List.nodup_nil

theorem conflict_after_unit_converges : Converges PendingRequesters.lowercase
    [recordsOfficer, messenger "reyes", messenger "santos"] newDesk :=
  (converges_iff fun _ _ _ _ h => h).mpr ⟨by decide +kernel, by decide +kernel⟩

/-- A group in conflict that comes before the unit of its section gets it from the second run only. -/
theorem conflict_before_unit_diverges : ¬ ∀ (js : Runtime) (source : List SourceRow) (db : Desk),
    (∀ a b, isStaffId a = true → isStaffId b = true → db.collation.key a = db.collation.key b → a = b) →
    Converges js source db := by
  intro h
  have hprompt := prompt_of_converges (fun _ _ _ _ hkey => hkey)
    (h PendingRequesters.lowercase [messenger "reyes", messenger "santos", recordsOfficer] newDesk fun _ _ _ _ hkey => hkey)
  revert hprompt
  decide +kernel

end ComplianceHub.Users.StaffSync
