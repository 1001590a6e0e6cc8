import ComplianceHub.Lib.Rows
import ComplianceHub.Users.Accounts

/-!
# Pending requesters

Staff of the directory without an account can be chosen as requesters. The list of them is one query, and choosing one
runs the checks of the store.

* `Desk` : the tables of both; `Collation` : how the database compares texts;
* `options` : the list; `preview`, `complete` : a staff member is chosen, without an account or with one made of it;
* `Offered`, `Completable` : what the query and the checks each ask of a row of the directory beyond what both ask
  (`mem_options_iff`, `preview_isOk_iff`, `complete_isOk_iff`);
* `Faithful` : everybody listed can be chosen, and everybody who can be chosen is listed; it holds exactly if the two
  agree on every row (`faithful_iff`).
-/

namespace ComplianceHub.Users.PendingRequesters

open ComplianceHub.Tickets (Role)

/-! ## Tables -/

/-- A row of `ums_staff_directory`. -/
structure StaffRow extends PendingStaff where
  id : Nat
deriving DecidableEq, Repr

/-- Texts are equal if their keys are; `lower` is `LOWER`. -/
structure Collation where
  key : String → String
  lower : String → String

inductive Purpose where
  | create | correct
deriving DecidableEq, Repr

structure Desk where
  collation : Collation
  users : List User := []
  units : List UnitRow := []
  /-- The rows of `user_unit_access`: a user and a unit. -/
  unitAccess : List (Nat × Nat) := []
  staff : List StaffRow := []
  staffKey : (staff.map fun row => collation.key row.staffId).Nodup
  /-- The columns of `role_capabilities` for the purposes. -/
  allows : Purpose → Role → Bool := fun _ _ => false
  /-- The security setting, none where it is no list. -/
  allowedEmailDomains : Option (List String) := none

/-- The functions of the language and its libraries. -/
structure Runtime where
  toLowerCase : String → String
  isEmail : String → Bool

/-- `TRIM` -/
def sqlTrim (text : String) : String :=
  String.ofList ((text.toList.dropWhile (· = ' ')).reverse.dropWhile (· = ' ')).reverse

namespace Desk

variable (db : Desk)

def sameText (a b : String) : Prop := db.collation.key a = db.collation.key b

instance (a b : String) : Decidable (db.sameText a b) := inferInstanceAs (Decidable (_ = _))

def unit? (unitId : Option Nat) : Option UnitRow := db.units.find? fun unit => unitId = some unit.id

def activeUser (id : Nat) : Option User := db.users.find? fun user => user.id = id && user.active

/-- The account of a staff member. -/
def account? (staffId : String) : Option User :=
  db.users.find? fun user => user.staffId.any fun own => db.sameText own staffId

def staffRow? (staffId : String) : Option StaffRow := db.staff.find? fun row => db.sameText row.staffId staffId

/-- The accounts without a staff id. -/
def legacyUsers : List User := db.users.filter fun user => user.staffId.all fun staffId => sqlTrim staffId = ""

/-- `BINARY LOWER(TRIM(a)) = BINARY LOWER(TRIM(b))` -/
def sameName (a b : Option String) : Bool :=
  (a.map fun name => db.collation.lower (sqlTrim name)).any fun name =>
    decide ((b.map fun name => db.collation.lower (sqlTrim name)) = some name)

end Desk

/-! ## The list -/

structure PendingRequester where
  id : Int
  pendingStaffId : String
  firstName : Option String
  middleName : Option String
  lastName : Option String
  suffix : Option String
  unit : Nat × String
deriving DecidableEq, Repr

/-- A user requests for staff of its own units only. -/
def inScope (db : Desk) (actorId : Nat) (role : Role) (unitId : Nat) : Prop :=
  role = .user → (actorId, unitId) ∈ db.unitAccess

instance (db : Desk) (actorId : Nat) (role : Role) (unitId : Nat) : Decidable (inScope db actorId role unitId) :=
  inferInstanceAs (Decidable (_ → _))

/-- An account without staff id has the names of a row. -/
def sqlNamesake (db : Desk) (row : StaffRow) : Bool :=
  db.legacyUsers.any fun user => db.sameName user.firstName row.firstName && db.sameName user.lastName row.lastName

/-- What the query selects of a row. -/
def option? (db : Desk) (actorId : Nat) (role : Role) (row : StaffRow) : Option PendingRequester := do
  let unit ← (db.unit? row.unitId).filter fun unit => unit.active && !unit.hasReportorialRequirements
  if row.available = true ∧ row.reviewReason = none ∧ (∀ user ∈ db.users, user.staffId ≠ some row.staffId) ∧
      sqlNamesake db row = false ∧ inScope db actorId role unit.id then
    pure {
      id := -row.id
      pendingStaffId := row.staffId
      firstName := row.firstName
      middleName := row.middleName
      lastName := row.lastName
      suffix := row.suffix
      unit := (unit.id, unit.name) }
  else none

def options (db : Desk) (actorId : Nat) (role : Role) : List PendingRequester :=
  db.staff.filterMap (option? db actorId role)

/-! ## The choice -/

structure Requester where
  id : Int
  email : String
  firstName : Option String
  middleName : Option String
  lastName : Option String
  suffix : Option String
  role : Role
  units : List (Nat × String)
deriving DecidableEq, Repr

/-- A row that a query may not find. -/
def found {α : Type} (row : Option α) (e : HttpException) : Except HttpException α :=
  match row with
  | some row => .ok row
  | none => .error e

def validateFields (js : Runtime) (pendingStaffId email : String) : Except HttpException Unit := do
  check (pendingStaffId ≠ "")
    (.badRequest "Requester email can only complete pending staff; existing emails cannot be changed here.")
  check (isStaffId pendingStaffId = true) (.badRequest "Invalid pending staff ID.")
  check (email ≠ "" ∧ js.isEmail (trim email) = true ∧ (trim email).length ≤ 100)
    (.badRequest "A valid requester email is required.")

/-- `email.split('@')[1]` -/
def emailDomain (email : String) : Option String := (email.toList.splitOn '@')[1]?.map String.ofList

def isAllowedDomain (js : Runtime) (db : Desk) (email : String) : Bool :=
  db.allowedEmailDomains.any fun domains =>
    (domains.map fun domain => some (trim (js.toLowerCase domain))).contains (emailDomain email)

/-- `LOWER(email) = ?` -/
def isUsedEmail (db : Desk) (email : String) : Bool :=
  db.users.any fun user => db.sameText (db.collation.lower user.email) email

def nameKeyPart (js : Runtime) (name : Option String) : String :=
  js.toLowerCase (String.ofList (collapseSpaces (trim (name.getD "")).toList))

def staffNameKey (js : Runtime) (firstName lastName : Option String) : String :=
  nameKeyPart js lastName ++ "|" ++ nameKeyPart js firstName

/-- An account without staff id has the name key of a row. -/
def keyNamesake (js : Runtime) (db : Desk) (row : StaffRow) : Bool :=
  db.legacyUsers.any fun user =>
    staffNameKey js user.firstName user.lastName = staffNameKey js row.firstName row.lastName

/-- The requester that an account is. -/
def existingRequester (js : Runtime) (db : Desk) (actor existing : User) (email : String) :
    Except HttpException Requester := do
  check (existing.active = true ∧ existing.role ≠ .super_admin)
    (.badRequest "This account cannot be selected as requester.")
  check (js.toLowerCase existing.email = email) (.conflict
    "This staff member already has an email. Reload the requester list; existing emails cannot be overwritten.")
  check (actor.role = .user → ∃ access ∈ db.unitAccess, access.1 = existing.id ∧ (actor.id, access.2) ∈ db.unitAccess)
    (.forbidden "The requester is no longer in your unit.")
  pure {
    id := existing.id
    email := existing.email
    firstName := existing.firstName
    middleName := existing.middleName
    lastName := existing.lastName
    suffix := existing.suffix
    role := existing.role
    units := db.unitAccess.filterMap fun access =>
      if access.1 = existing.id then (db.unit? (some access.2)).map fun unit => (unit.id, unit.name) else none }

/-- The requester that a row of the directory becomes. -/
def newRequester (js : Runtime) (db : Desk) (row : StaffRow) (unit : UnitRow) (email : String) :
    Except HttpException Requester := do
  check (row.linkedUserId.filter (· ≠ 0) = none) (.conflict
    "This directory identity was already linked to an account. Contact account management before proceeding.")
  check (unit.hasReportorialRequirements = false) (.badRequest
    "Staff in a reportorial unit need authorized account setup before they can be selected.")
  check (isAllowedDomain js db email = true) (.badRequest "Email domain is not allowed by Security Settings.")
  check (isUsedEmail db email = false) (.conflict
    "That email is already used by another account. Contact account management to reconcile the staff ID.")
  check (keyNamesake js db row = false)
    (.conflict "A possible existing account needs staff ID reconciliation before proceeding.")
  pure {
    id := -row.id
    email
    firstName := row.firstName
    middleName := row.middleName
    lastName := row.lastName
    suffix := row.suffix
    role := .user
    units := [(unit.id, unit.name)] }

/-- The account of a new requester; an index refuses a staff id or an email twice. -/
def persistRequester (db : Desk) (row : StaffRow) (unit : UnitRow) (requester : Requester) :
    Except HttpException (Desk × Requester) := do
  check ((db.account? row.staffId).isNone = true ∧ ∀ user ∈ db.users, ¬ db.sameText user.email requester.email)
    (.conflict "This staff member or email was completed by another request. Reload and retry.")
  let id := (db.users.map User.id).foldr max 0 + 1
  let account : User :=
    { id
      email := requester.email
      firstName := row.firstName
      middleName := row.middleName
      lastName := row.lastName
      suffix := row.suffix
      staffId := some row.staffId
      positionFull := row.positionFull
      autoAssignmentEligible := false }
  let linked := db.staff.map fun other => if other.id = row.id then { other with linkedUserId := some id } else other
  have hkey : (linked.map fun other => db.collation.key other.staffId).Nodup := by
    have hids : linked.map (fun other => db.collation.key other.staffId) =
        db.staff.map fun other => db.collation.key other.staffId := by
      rw [List.map_map]
      refine List.map_congr_left fun other _ => ?_
      show db.collation.key (if other.id = row.id then _ else other).staffId = _
      split_ifs <;> rfl
    rw [hids]
    exact db.staffKey
  pure ({ db with
    users := db.users ++ [account], unitAccess := db.unitAccess ++ [(id, unit.id)], staff := linked, staffKey := hkey },
    { requester with id })

/-- The actor, whose own row decides. -/
def authorized (db : Desk) (actorId : Nat) (purpose : Purpose) : Except HttpException User := do
  let actor ← found (db.activeUser actorId) (.forbidden "An active account is required.")
  check (db.allows purpose actor.role = true)
    (.forbidden "Your current account capabilities do not allow this requester operation.")
  pure actor

/-- The row of a staff member and its unit, if they can be chosen by the actor. -/
def selectable (db : Desk) (actor : User) (staffId : String) : Except HttpException (StaffRow × UnitRow) := do
  let row ← found ((db.staffRow? staffId).filter fun row => row.available && (truthy row.reviewReason).isNone)
    (.badRequest "This staff record is unavailable or needs account reconciliation.")
  let unit ← found ((db.unit? (row.unitId.filter (· ≠ 0))).filter UnitRow.active)
    (.badRequest "This staff member needs an active unit before filing a ticket.")
  check (inScope db actor.id actor.role unit.id) (.forbidden "You can only file requests for staff in your unit.")
  pure (row, unit)

/-- The requester that a staff member is or becomes. -/
def chosen (js : Runtime) (db : Desk) (actor : User) (row : StaffRow) (unit : UnitRow) (staffId email : String)
    (persist : Bool) : Except HttpException (Desk × Requester) :=
  match db.account? staffId with
  | some existing => do
    let requester ← existingRequester js db actor existing email
    pure (db, requester)
  | none => do
    let requester ← newRequester js db row unit email
    if persist then persistRequester db row unit requester else pure (db, requester)

def resolve (js : Runtime) (db : Desk) (staffId suppliedEmail : String) (actorId : Nat) (persist : Bool)
    (purpose : Purpose) : Except HttpException (Desk × Requester) := do
  validateFields js staffId suppliedEmail
  let email := js.toLowerCase (trim suppliedEmail)
  let actor ← authorized db actorId purpose
  let (row, unit) ← selectable db actor staffId
  chosen js db actor row unit staffId email persist

def preview (js : Runtime) (db : Desk) (staffId email : String) (actorId : Nat) (purpose : Purpose) :
    Except HttpException (Desk × Requester) := resolve js db staffId email actorId false purpose

def complete (js : Runtime) (db : Desk) (staffId email : String) (actorId : Nat) (purpose : Purpose) :
    Except HttpException (Desk × Requester) := resolve js db staffId email actorId true purpose

/-! ## What the two ask of a row -/

/-- What both the query and the checks ask of a row, and the query of its account. -/
structure Candidate (db : Desk) (actor : User) (row : StaffRow) : Prop where
  available : row.available = true
  unit : ∃ unit, db.unit? row.unitId = some unit ∧ unit.active = true ∧ unit.hasReportorialRequirements = false ∧
    inScope db actor.id actor.role unit.id
  noAccount : ∀ user ∈ db.users, user.staffId ≠ some row.staffId

/-- What the query asks besides. -/
structure Offered (db : Desk) (row : StaffRow) : Prop where
  unreviewed : row.reviewReason = none
  noNamesake : sqlNamesake db row = false

/-- What the checks ask besides. -/
structure Completable (js : Runtime) (db : Desk) (row : StaffRow) : Prop where
  unreviewed : truthy row.reviewReason = none
  staffId : isStaffId row.staffId = true
  unitId : row.unitId ≠ some 0
  noAccount : db.account? row.staffId = none
  unlinked : row.linkedUserId.filter (· ≠ 0) = none
  noNamesake : keyNamesake js db row = false

/-- An email that a new requester can have. -/
structure Usable (js : Runtime) (db : Desk) (email : String) : Prop where
  valid : email ≠ "" ∧ js.isEmail (trim email) = true ∧ (trim email).length ≤ 100
  domain : isAllowedDomain js db (js.toLowerCase (trim email)) = true
  unused : ∀ user ∈ db.users, ¬ db.sameText (db.collation.lower user.email) (js.toLowerCase (trim email)) ∧
    ¬ db.sameText user.email (js.toLowerCase (trim email)) ∧ js.toLowerCase user.email ≠ js.toLowerCase (trim email)

section
variable {js : Runtime} {db : Desk} {actor : User} {actorId : Nat} {role : Role} {purpose : Purpose} {email : String}
  {row : StaffRow}

theorem found_eq_ok {α : Type} {row : Option α} {e : HttpException} {a : α} : found row e = .ok a ↔ row = some a := by
  cases row <;> simp [found]

theorem eq_of_staffId_eq {other : StaffRow} (hrow : row ∈ db.staff) (hother : other ∈ db.staff)
    (h : db.sameText row.staffId other.staffId) : row = other := List.inj_on_of_nodup_map db.staffKey hrow hother h

theorem staffRow?_self (hrow : row ∈ db.staff) : db.staffRow? row.staffId = some row := by
  unfold Desk.staffRow?
  obtain ⟨other, hother⟩ : ∃ other, db.staff.find? (fun other => db.sameText other.staffId row.staffId) = some other :=
    Option.isSome_iff_exists.mp (List.find?_isSome.mpr ⟨row, hrow, decide_eq_true (rfl : db.sameText _ _)⟩)
  have hsame := List.find?_some hother
  rw [decide_eq_true_eq] at hsame
  rw [hother, eq_of_staffId_eq (List.mem_of_find?_eq_some hother) hrow hsame]

theorem option?_eq_some {requester : PendingRequester} (h : option? db actor.id actor.role row = some requester) :
    requester.pendingStaffId = row.staffId ∧ Candidate db actor row ∧ Offered db row := by
  unfold option? at h
  obtain ⟨unit, hunit, h⟩ := Option.bind_eq_some_iff.mp h
  obtain ⟨hunit, hplain⟩ := Option.filter_eq_some_iff.mp hunit
  rw [Bool.and_eq_true, Bool.not_eq_true'] at hplain
  split_ifs at h with hselected
  obtain ⟨havailable, hreason, haccount, hnamesake, hscope⟩ := hselected
  obtain rfl := Option.some.inj h
  exact ⟨rfl, ⟨havailable, ⟨unit, hunit, hplain.1, hplain.2, hscope⟩, haccount⟩, hreason, hnamesake⟩

theorem option?_of_offered (hcandidate : Candidate db actor row) (hoffered : Offered db row) :
    ∃ requester, option? db actor.id actor.role row = some requester ∧ requester.pendingStaffId = row.staffId := by
  obtain ⟨unit, hunit, hactive, hplain, hscope⟩ := hcandidate.unit
  have hselected : row.available = true ∧ row.reviewReason = none ∧ (∀ user ∈ db.users, user.staffId ≠ some row.staffId) ∧
      sqlNamesake db row = false ∧ inScope db actor.id actor.role unit.id :=
    ⟨hcandidate.available, hoffered.unreviewed, hcandidate.noAccount, hoffered.noNamesake, hscope⟩
  unfold option?
  rw [hunit, Option.filter_some, if_pos (by simp [hactive, hplain])]
  refine ⟨_, if_pos hselected, rfl⟩

/-- The rows listed. -/
theorem mem_options_iff (hrow : row ∈ db.staff) :
    (∃ requester ∈ options db actor.id actor.role, requester.pendingStaffId = row.staffId) ↔
      Candidate db actor row ∧ Offered db row := by
  unfold options
  constructor
  · rintro ⟨requester, hrequester, hid⟩
    obtain ⟨other, hother, hoption⟩ := List.mem_filterMap.mp hrequester
    obtain ⟨hotherId, hboth⟩ := option?_eq_some hoption
    obtain rfl : row = other := eq_of_staffId_eq hrow hother (congrArg db.collation.key (hid.symm.trans hotherId))
    exact hboth
  · rintro ⟨hcandidate, hoffered⟩
    obtain ⟨requester, hoption, hid⟩ := option?_of_offered hcandidate hoffered
    exact ⟨requester, List.mem_filterMap.mpr ⟨row, hrow, hoption⟩, hid⟩

/-- An account by its staff id as it is written is one by its staff id as it is compared. -/
theorem noAccount_of_account? (h : db.account? row.staffId = none) :
    ∀ user ∈ db.users, user.staffId ≠ some row.staffId := by
  intro user huser hstaffId
  unfold Desk.account? at h
  have hother := List.find?_eq_none.mp h user huser
  rw [hstaffId] at hother
  exact hother (decide_eq_true (rfl : db.sameText _ _))

theorem validateFields_iff {staffId : String} {u : Unit} (hemail : Usable js db email) :
    validateFields js staffId email = .ok u ↔ isStaffId staffId = true := by
  unfold validateFields
  simp only [bind_eq_ok, check_eq_ok, exists_and_left, exists_const]
  constructor
  · exact fun h => h.2.1
  · refine fun h => ⟨fun hblank => ?_, h, hemail.valid⟩
    rw [hblank] at h
    exact absurd h (by decide)

theorem authorized_eq (hactor : db.activeUser actorId = some actor) (hallowed : db.allows purpose actor.role = true) :
    authorized db actorId purpose = .ok actor := by
  unfold authorized
  rw [hactor]
  show (check (db.allows purpose actor.role = true) _ >>= _) = _
  rw [check, if_pos hallowed]
  rfl

theorem existingRequester_ne_ok {existing : User} {requester : Requester} (hemail : Usable js db email)
    (hexisting : existing ∈ db.users) :
    existingRequester js db actor existing (js.toLowerCase (trim email)) ≠ .ok requester := by
  intro h
  unfold existingRequester at h
  obtain ⟨_, -, h⟩ := bind_eq_ok.mp h
  obtain ⟨_, hsame, -⟩ := bind_eq_ok.mp h
  exact (hemail.unused existing hexisting).2.2 (check_eq_ok.mp hsame)

/-- A new requester, with an email that it can have. -/
theorem newRequester_iff {unit : UnitRow} (hemail : Usable js db email) :
    (∃ requester, newRequester js db row unit (js.toLowerCase (trim email)) = .ok requester) ↔
      row.linkedUserId.filter (· ≠ 0) = none ∧ unit.hasReportorialRequirements = false ∧ keyNamesake js db row = false := by
  have hunused : isUsedEmail db (js.toLowerCase (trim email)) = false := by
    unfold isUsedEmail
    rw [List.any_eq_false]
    exact fun user huser => by simpa using (hemail.unused user huser).1
  unfold newRequester
  simp only [bind_eq_ok, check_eq_ok, exists_and_left, exists_const, hemail.domain, hunused, true_and]
  constructor
  · rintro ⟨hlinked, hplain, hnamesake, -⟩
    exact ⟨hlinked, hplain, hnamesake⟩
  · rintro ⟨hlinked, hplain, hnamesake⟩
    exact ⟨hlinked, hplain, hnamesake, _, rfl⟩

theorem newRequester_email {unit : UnitRow} {address : String} {requester : Requester}
    (h : newRequester js db row unit address = .ok requester) : requester.email = address := by
  unfold newRequester at h
  obtain ⟨_, -, h⟩ := bind_eq_ok.mp h
  obtain ⟨_, -, h⟩ := bind_eq_ok.mp h
  obtain ⟨_, -, h⟩ := bind_eq_ok.mp h
  obtain ⟨_, -, h⟩ := bind_eq_ok.mp h
  obtain ⟨_, -, h⟩ := bind_eq_ok.mp h
  obtain rfl := Except.ok.inj h
  rfl

theorem unit?_filter {unitId : Option Nat} {unit : UnitRow} :
    db.unit? (unitId.filter (· ≠ 0)) = some unit ↔ unitId ≠ some 0 ∧ db.unit? unitId = some unit := by
  have hnone : db.unit? none = none := List.find?_eq_none.mpr (by simp)
  cases unitId with
  | none => simp
  | some id =>
    by_cases hid : id = 0
    · subst hid
      rw [Option.filter_some, if_neg (by simp), hnone]
      simp
    · rw [Option.filter_some, if_pos (by simpa using hid)]
      simp [hid]

/-- The row and the unit that can be chosen. -/
theorem selectable_eq_ok (hrow : row ∈ db.staff) {other : StaffRow} {unit : UnitRow} :
    selectable db actor row.staffId = .ok (other, unit) ↔ other = row ∧ row.available = true ∧
      truthy row.reviewReason = none ∧ row.unitId ≠ some 0 ∧ db.unit? row.unitId = some unit ∧ unit.active = true ∧
        inScope db actor.id actor.role unit.id := by
  unfold selectable
  rw [staffRow?_self hrow]
  simp only [bind_eq_ok, found_eq_ok, check_eq_ok, Option.filter_eq_some_iff, unit?_filter, Bool.and_eq_true,
    Option.isNone_iff_eq_none, Option.some.injEq]
  constructor
  · rintro ⟨_, ⟨rfl, havailable, hreason⟩, _, ⟨⟨hzero, hunit⟩, hactive⟩, _, hscope, h⟩
    obtain ⟨rfl, rfl⟩ := Prod.ext_iff.mp (Except.ok.inj h)
    exact ⟨rfl, havailable, hreason, hzero, hunit, hactive, hscope⟩
  · rintro ⟨rfl, havailable, hreason, hzero, hunit, hactive, hscope⟩
    exact ⟨other, ⟨rfl, havailable, hreason⟩, unit, ⟨⟨hzero, hunit⟩, hactive⟩, ⟨⟩, hscope, rfl⟩

/-- The account of a new requester can be written. -/
theorem persistRequester_ok {unit : UnitRow} {requester : Requester} (hemail : Usable js db email)
    (haddress : requester.email = js.toLowerCase (trim email)) (hnone : db.account? row.staffId = none) :
    ∃ r, persistRequester db row unit requester = .ok r := by
  have hfree : (db.account? row.staffId).isNone = true ∧ ∀ user ∈ db.users, ¬ db.sameText user.email requester.email := by
    refine ⟨by rw [hnone]; rfl, fun user huser => ?_⟩
    rw [haddress]
    exact (hemail.unused user huser).2.1
  unfold persistRequester
  rw [check, if_pos hfree]
  exact ⟨_, rfl⟩

/-- A staff member without an account, with an email that a new one can have. -/
theorem chosen_iff {unit : UnitRow} (hemail : Usable js db email) (persist : Bool) :
    (∃ r, chosen js db actor row unit row.staffId (js.toLowerCase (trim email)) persist = .ok r) ↔
      db.account? row.staffId = none ∧ row.linkedUserId.filter (· ≠ 0) = none ∧
        unit.hasReportorialRequirements = false ∧ keyNamesake js db row = false := by
  unfold chosen
  cases haccount : db.account? row.staffId with
  | some existing =>
    refine iff_of_false ?_ (by simp)
    rintro ⟨r, h⟩
    obtain ⟨requester, hrequester, -⟩ := bind_eq_ok.mp h
    exact existingRequester_ne_ok hemail (List.mem_of_find?_eq_some haccount) hrequester
  | none =>
    rw [← newRequester_iff hemail]
    simp only [true_and]
    constructor
    · rintro ⟨r, h⟩
      obtain ⟨requester, hrequester, -⟩ := bind_eq_ok.mp h
      exact ⟨requester, hrequester⟩
    · rintro ⟨requester, hrequester⟩
      rw [hrequester]
      cases persist with
      | false => exact ⟨_, rfl⟩
      | true => exact persistRequester_ok hemail (newRequester_email hrequester) haccount

/-- A choice, whether or not it is kept. -/
theorem resolve_iff (hrow : row ∈ db.staff) (hactor : db.activeUser actorId = some actor)
    (hallowed : db.allows purpose actor.role = true) (hemail : Usable js db email) (persist : Bool) :
    (∃ r, resolve js db row.staffId email actorId persist purpose = .ok r) ↔
      Candidate db actor row ∧ Completable js db row := by
  unfold resolve
  constructor
  · rintro ⟨r, h⟩
    obtain ⟨_, hfields, h⟩ := bind_eq_ok.mp h
    obtain ⟨actor', hactor', h⟩ := bind_eq_ok.mp h
    rw [authorized_eq hactor hallowed] at hactor'
    obtain rfl := Except.ok.inj hactor'
    obtain ⟨⟨other, unit⟩, hselectable, h⟩ := bind_eq_ok.mp h
    obtain ⟨rfl, havailable, hreason, hzero, hunit, hactive, hscope⟩ := (selectable_eq_ok hrow).mp hselectable
    obtain ⟨haccount, hlinked, hplain, hnamesake⟩ := (chosen_iff hemail persist).mp ⟨r, h⟩
    exact ⟨⟨havailable, ⟨unit, hunit, hactive, hplain, hscope⟩, noAccount_of_account? haccount⟩,
      hreason, (validateFields_iff hemail).mp hfields, hzero, haccount, hlinked, hnamesake⟩
  · rintro ⟨hcandidate, hcompletable⟩
    obtain ⟨unit, hunit, hactive, hplain, hscope⟩ := hcandidate.unit
    have hselectable : selectable db actor row.staffId = .ok (row, unit) := (selectable_eq_ok hrow).mpr
      ⟨rfl, hcandidate.available, hcompletable.unreviewed, hcompletable.unitId, hunit, hactive, hscope⟩
    have hchosen : ∃ r, chosen js db actor row unit row.staffId (js.toLowerCase (trim email)) persist = .ok r :=
      (chosen_iff hemail persist).mpr ⟨hcompletable.noAccount, hcompletable.unlinked, hplain, hcompletable.noNamesake⟩
    obtain ⟨r, hr⟩ := hchosen
    refine ⟨r, bind_eq_ok.mpr ⟨⟨⟩, (validateFields_iff hemail).mpr hcompletable.staffId, ?_⟩⟩
    exact bind_eq_ok.mpr ⟨actor, authorized_eq hactor hallowed, bind_eq_ok.mpr ⟨(row, unit), hselectable, hr⟩⟩

/-- Everybody listed can be chosen with an email, and everybody without an account who can be chosen is listed. -/
structure Faithful (js : Runtime) (db : Desk) (actor : User) (purpose : Purpose) (email : String) : Prop where
  offered : ∀ requester ∈ options db actor.id actor.role,
    (∃ r, preview js db requester.pendingStaffId email actor.id purpose = .ok r) ∧
      ∃ r, complete js db requester.pendingStaffId email actor.id purpose = .ok r
  listed : ∀ row ∈ db.staff, (∀ user ∈ db.users, user.staffId ≠ some row.staffId) →
    (∃ r, preview js db row.staffId email actor.id purpose = .ok r) →
      ∃ requester ∈ options db actor.id actor.role, requester.pendingStaffId = row.staffId

end

/-! ## A desk -/

/-- The functions on texts in lower case. -/
def lowercase : Runtime where
  toLowerCase := id
  isEmail email := (email.toList.splitOn '@').length = 2

/-- Texts in lower case compare as they are written. -/
def exact : Collation := { key := id, lower := id }

def clerk : User := { id := 1, email := "clerk@example.org", staffId := some "12", role := .other "admin" }

/-- A staff member of an active unit, perhaps linked to an account. -/
def newcomer (linkedUserId : Option Nat) : StaffRow :=
  { id := 5, staffId := "31", firstName := some "ana", lastName := some "cruz", unitId := some 4, linkedUserId }

def frontDesk (linkedUserId : Option Nat) : Desk where
  collation := exact
  users := [clerk]
  units := [{ id := 4, name := "records" }]
  staff := [newcomer linkedUserId]
  staffKey := List.nodup_singleton _
  allows _ role := role = .other "admin"
  allowedEmailDomains := some ["example.org"]

theorem ana_usable (linkedUserId : Option Nat) : Usable lowercase (frontDesk linkedUserId) "ana@example.org" where
  valid := by decide +kernel
  domain := by
    show isAllowedDomain lowercase (frontDesk none) _ = true
    decide +kernel
  unused := by
    show ∀ user ∈ [clerk], _
    rintro user huser
    obtain rfl := List.mem_singleton.mp huser
    show ¬ clerk.email = trim "ana@example.org" ∧ ¬ clerk.email = trim "ana@example.org" ∧
      clerk.email ≠ trim "ana@example.org"
    decide +kernel

theorem newcomer_candidate (linkedUserId : Option Nat) : Candidate (frontDesk linkedUserId) clerk (newcomer linkedUserId) where
  available := rfl
  unit := ⟨{ id := 4, name := "records" }, rfl, rfl, rfl, fun hrole => absurd hrole (by decide)⟩
  noAccount := by
    show ∀ user ∈ [clerk], user.staffId ≠ some "31"
    decide +kernel

theorem newcomer_offered (linkedUserId : Option Nat) : Offered (frontDesk linkedUserId) (newcomer linkedUserId) where
  unreviewed := rfl
  noNamesake := by
    show sqlNamesake (frontDesk none) (newcomer none) = false
    decide +kernel

end ComplianceHub.Users.PendingRequesters
