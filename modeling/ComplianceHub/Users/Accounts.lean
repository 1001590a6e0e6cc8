import ComplianceHub.Common
import ComplianceHub.Users.Types

/-!
# Accounts

* `Directory` : the tables that the account services read and write;
* `update`, `create`, `completePendingStaff`, `updatePasswordHash`, `remove`, `resetPassword`, `linkGoogleIdentity` : what
  each of them makes of an account;
* `update_eq_ok`, `updatedExisting_eq_ok`, `newUser_eq_ok` : what a request that is not refused has written.

A field of a request is absent, `null` or a value (`Field`); blank texts have become `null` before. A column that may not
be null has no `null` here: the write fails.
-/

namespace ComplianceHub.Users

open ComplianceHub.Tickets (Role)

/-- Absent, `null` or a value. -/
abbrev Field (α : Type) := Option (Option α)

/-- A row of `role_definitions`. -/
structure RoleDefinition where
  value : Role
  assignable : Bool := true
deriving DecidableEq, Repr

/-- A row of `ums_staff_directory`. -/
structure PendingStaff where
  staffId : String
  firstName : Option String := none
  middleName : Option String := none
  lastName : Option String := none
  suffix : Option String := none
  positionFull : Option String := none
  unitId : Option Nat := none
  available : Bool := true
  reviewReason : Option String := none
  linkedUserId : Option Nat := none
deriving DecidableEq, Repr

structure Directory where
  users : List User := []
  roleDefinitions : List RoleDefinition := []
  /-- The rows of `role_capabilities`, which the service holds in memory. -/
  capability : Role → Option RoleCapability := fun _ => none
  units : List UnitRow := []
  staff : List PendingStaff := []

/-- What the account services ask of security settings, the approved staff list and the password hash. -/
structure UserServices where
  isEmailDomainAllowed : String → Bool
  isListedStaffId : String → Bool
  defaultPassword : String
  hash : String → String

namespace Directory

variable (db : Directory)

def findOne (id : Nat) : Option User := db.users.find? fun user => user.id = id

/-- The row of a saved entity: every column that differs is written. -/
def saved (row user : User) : User :=
  if { user with updatedAt := row.updatedAt } = row then row else { user with updatedAt := row.updatedAt + 1 }

def save (user : User) : Directory :=
  { db with users := db.users.map fun row => if row.id = user.id then saved row user else row }

/-- The next value of the primary key. -/
def nextId : Nat := (db.users.map User.id).foldr max 0 + 1

end Directory

/-- A text that is truthy. -/
def truthy (text : Option String) : Option String := text.filter fun text => text ≠ ""

/-- A text with more than white space, trimmed. -/
def optionalText (text : Option String) : Option String := truthy (text.map trim)

/-! ## Units -/

/-- The one unit found, if it suits the role. -/
def selectedUnit (found : List UnitRow) (role : Role) : Except HttpException (List UnitRow) :=
  match found with
  | [unit] => do
    check (unit.hasReportorialRequirements = decide (role ≠ .user)) (.badRequest <|
      if role ≠ .user then "RICTMS users can only be assigned to reportorial units."
      else "Regular users can only be assigned to regular requester units.")
    pure [unit]
  | _ => .error (.badRequest "The selected unit is not available.")

def findUnits (units : List UnitRow) (unitIds : List Rat) : List UnitRow :=
  units.filter fun unit => unit.active && decide ((unit.id : Rat) ∈ unitIds)

def resolveUnitSelection (units : List UnitRow) (unitIds : Option (List Rat)) (role : Role) (required : Bool) :
    Except HttpException (List UnitRow) :=
  match unitIds with
  | none => .error (.badRequest "Unit selection must contain one unit.")
  | some [] =>
    if required then .error (.badRequest "A unit is required before saving this profile.") else .ok []
  | some [unitId] => do
    check (unitId.den = 1) (.badRequest "The selected unit is invalid.")
    selectedUnit (findUnits units [unitId]) role
  | some (_ :: _ :: _) => .error (.badRequest "A user can be assigned to only one unit.")

/-! ## Updating -/

structure UpdateUserDto where
  email : Option String := none
  password : Option String := none
  firstName : Option String := none
  middleName : Field String := none
  lastName : Option String := none
  suffix : Field String := none
  phoneNumber : Field String := none
  sex : Field String := none
  staffId : Field String := none
  position : Field String := none
  positionFull : Field String := none
  designation : Field String := none
  role : Option Role := none
  active : Option Bool := none
  autoAssignmentEligible : Option Bool := none
  unitIds : Field (List Rat) := none
deriving DecidableEq, Repr

structure UpdateOptions where
  requireUnit : Bool := false
  actorUserId : Option Nat := none
deriving DecidableEq, Repr

section
variable (s : UserServices) (db : Directory) (user : User) (dto : UpdateUserDto) (options : UpdateOptions)

def updatedEmail : Except HttpException String :=
  match truthy dto.email with
  | none => .ok user.email
  | some email => do
    let normalizedEmail := (trim email).toLower
    check (s.isEmailDomainAllowed normalizedEmail = true)
      (.badRequest "Email domain is not allowed by Security Settings.")
    pure normalizedEmail

/-- `validateStaffId`: six digits, the account's own or on the approved list. -/
def validateStaffId (staffId : String) : Bool :=
  let normalized := trim staffId
  normalized.length = 6 && normalized.toList.all Char.isDigit &&
    ((db.findOne user.id).any (fun own => own.staffId.map trim = some normalized) || s.isListedStaffId normalized)

/-- The account that a staff id belongs to. -/
def staffIdOwner (staffId : String) : Option User := db.users.find? fun other => other.staffId = some staffId

def updatedStaffId : Except HttpException (Option String) :=
  match dto.staffId with
  | none => .ok user.staffId
  | some none => .ok none
  | some (some staffId) => do
    check (options.actorUserId ≠ some user.id ∨ trim staffId = "" ∨ some (trim staffId) = user.staffId.map trim ∨
        validateStaffId s db user staffId = true)
      (.badRequest <| "The new Staff ID is not in the approved staff list. Keep your existing Staff ID or contact the " ++
        "system administrator.")
    check (trim staffId = "" ∨ (staffIdOwner db staffId).all fun existing => existing.id = user.id)
      (.conflict "Staff ID is already in use by another account.")
    pure (some staffId)

def updatedUnits : Except HttpException (List UnitRow) :=
  let targetRole := dto.role.getD user.role
  match dto.unitIds with
  | some unitIds => resolveUnitSelection db.units unitIds targetRole options.requireUnit
  | none =>
    let unitIds := user.units.map fun unit => (unit.id : Rat)
    if options.requireUnit then resolveUnitSelection db.units unitIds targetRole true
    -- A role change must not leave an already-assigned user in the wrong unit category.
    else if dto.role.isSome ∧ user.units ≠ [] then resolveUnitSelection db.units unitIds targetRole false
    else if 1 < user.units.length then .error (.badRequest "A user can be assigned to only one unit.")
    else .ok user.units

/-- The entity that `update` saves. -/
def update : Except HttpException User := do
  let email ← updatedEmail s user dto
  let staffId ← updatedStaffId s db user dto options
  let units ← updatedUnits db user dto options
  pure { user with
    email, staffId, units
    passwordHash := ((truthy dto.password).map s.hash).getD user.passwordHash
    firstName := truthy dto.firstName <|> user.firstName
    middleName := dto.middleName.getD user.middleName
    lastName := truthy dto.lastName <|> user.lastName
    suffix := dto.suffix.getD user.suffix
    phoneNumber := dto.phoneNumber.getD user.phoneNumber
    sex := dto.sex.getD user.sex
    position := dto.position.getD user.position
    positionFull := dto.positionFull.getD user.positionFull
    designation := dto.designation.getD user.designation
    role := dto.role.getD user.role
    active := dto.active.getD user.active
    autoAssignmentEligible :=
      if dto.role.getD user.role = .user then false else dto.autoAssignmentEligible.getD user.autoAssignmentEligible }

end

def updatePasswordHash (user : User) (passwordHash : String) : User := { user with passwordHash }

def remove (user : User) : User := { user with active := false }

def resetPassword (s : UserServices) (user : User) : User := { user with passwordHash := s.hash s.defaultPassword }

def linkGoogleIdentity (user : User) (googleSub : String) : User :=
  { user with googleSub := some googleSub, authProvider := .google }

/-! ## Creating -/

structure CreateUserDto where
  email : String
  password : Option String := none
  firstName : Field String := none
  middleName : Field String := none
  lastName : Field String := none
  suffix : Field String := none
  phoneNumber : Field String := none
  sex : Field String := none
  staffId : Field String := none
  position : Field String := none
  positionFull : Field String := none
  designation : Field String := none
  role : Role
  unitIds : Field (List Rat) := none
  autoAssignmentEligible : Option Bool := none
deriving DecidableEq, Repr

/-- A profile text that a creation was given for an account. -/
def profileText (field : Field String) (stored : Option String) : Option String := (field.map optionalText).getD stored

section
variable (s : UserServices) (db : Directory) (dto : CreateUserDto)

/-- The unit that a creation was given for an account. -/
def createdUnits (role : Role) (stored : List UnitRow) : Except HttpException (List UnitRow) :=
  match dto.unitIds with
  | some unitIds => resolveUnitSelection db.units unitIds role false
  | none => .ok stored

/-- The account of that email, its profile updated. Its role stays. -/
def updatedExisting (existingUser : User) : Except HttpException User := do
  let units ← createdUnits db dto existingUser.role existingUser.units
  pure { existingUser with
    units
    firstName := profileText dto.firstName existingUser.firstName
    lastName := profileText dto.lastName existingUser.lastName
    middleName := profileText dto.middleName existingUser.middleName
    suffix := profileText dto.suffix existingUser.suffix
    staffId := profileText dto.staffId existingUser.staffId
    position := profileText dto.position existingUser.position
    positionFull := profileText dto.positionFull existingUser.positionFull
    designation := profileText dto.designation existingUser.designation
    autoAssignmentEligible :=
      if existingUser.role = .user then false else dto.autoAssignmentEligible.getD existingUser.autoAssignmentEligible }

/-- A new account. -/
def newUser (email : String) : Except HttpException User := do
  check ((db.roleDefinitions.find? fun definition => definition.value = dto.role).any RoleDefinition.assignable)
    (.badRequest "The selected role is not available for user creation.")
  let firstName := ((dto.firstName.join).map trim).getD ""
  let lastName := ((dto.lastName.join).map trim).getD ""
  check (firstName ≠ "" ∧ lastName ≠ "")
    (.badRequest "First name and last name are required when creating a new account")
  let units ← createdUnits db dto dto.role []
  pure {
    id := db.nextId, email, firstName, lastName, units
    passwordHash := s.hash ((optionalText dto.password).getD s.defaultPassword)
    middleName := optionalText dto.middleName.join
    suffix := optionalText dto.suffix.join
    staffId := optionalText dto.staffId.join
    position := optionalText dto.position.join
    positionFull := optionalText dto.positionFull.join
    designation := optionalText dto.designation.join
    role := dto.role
    autoAssignmentEligible := if dto.role = .user then false else dto.autoAssignmentEligible.getD true }

/-- `requireNew` is set where staff records are completed. -/
def createOver (requireNew : Bool) (email : String) : Except HttpException (Directory × User) :=
  match db.users.find? fun user => user.email = email with
  | some existingUser => do
    check (requireNew = false)
      (.conflict "That email already belongs to an account. No existing account was changed.")
    check (truthy dto.password = none) (.conflict "User with this email already exists")
    let user ← updatedExisting db dto existingUser
    pure (db.save user, user)
  | none => do
    let user ← newUser s db dto email
    pure ({ db with users := db.users ++ [user] }, user)

def create (requireNew : Bool) : Except HttpException (Directory × User) := do
  let email := (trim dto.email).toLower
  check (s.isEmailDomainAllowed email = true) (.badRequest "Email domain is not allowed by Security Settings.")
  createOver s db dto requireNew email

end

/-- White space runs as one space each. -/
def collapseSpaces : List Char → List Char
  | c :: d :: rest => if isSpace c ∧ isSpace d then collapseSpaces (d :: rest)
    else (if isSpace c then ' ' else c) :: collapseSpaces (d :: rest)
  | [c] => [if isSpace c then ' ' else c]
  | [] => []

def nameKeyPart (name : Option String) : String := (String.ofList (collapseSpaces (trim (name.getD "")).toList)).toLower

def staffNameKey (firstName lastName : Option String) : String := nameKeyPart lastName ++ "|" ++ nameKeyPart firstName

def isStaffId (staffId : String) : Bool :=
  1 ≤ staffId.length && staffId.length ≤ 6 && staffId.toList.all Char.isDigit

/-- The actor's own row decides, not the role of the session. -/
def assertPendingStaffAuthority (db : Directory) (role : Role) (actorId : Nat) : Except HttpException Bool := do
  let actor := (db.findOne actorId).filter fun actor => actor.active
  let admin := actor.any fun actor => (db.capability actor.role).any RoleCapability.isUserManagementAdmin
  let viewer := actor.any fun actor => (db.capability actor.role).any RoleCapability.isUserManagementView
  check (admin = true ∨ viewer = true) (.forbidden "User Management access is required.")
  check (admin = true ∨ role = .user) (.forbidden "You can only create regular user accounts.")
  pure admin

def reconciliationNeeded : HttpException :=
  .conflict "This staff record needs reconciliation or has already been completed. Refresh the list."

/-- The staff record, if an account can be made of it. -/
def assertPendingStaff (db : Directory) (staffId : String) (admin : Bool) : Except HttpException PendingStaff :=
  match db.staff.find? fun staff => staff.staffId = staffId with
  | none => .error reconciliationNeeded
  | some pending => do
    let authorizedSetup := admin &&
      pending.reviewReason = some "Reportorial-unit staff require authorized account setup."
    check (pending.available = true ∧ (truthy pending.reviewReason = none ∨ authorizedSetup = true) ∧
      pending.linkedUserId = none) reconciliationNeeded
    check (¬ ∃ user ∈ db.users, user.staffId = some staffId)
      (.conflict "This staff member already has an account. Update that account instead.")
    check (¬ ∃ user ∈ db.users, optionalText user.staffId = none ∧
        staffNameKey user.firstName user.lastName = staffNameKey pending.firstName pending.lastName)
      (.conflict "A possible existing account needs staff ID reconciliation before proceeding.")
    check (pending.unitId.isSome = true) (.badRequest "Synchronize an active unit for this staff member first.")
    pure pending

def pendingStaffDto (pending : PendingStaff) (email : String) (role : Role) : CreateUserDto :=
  { email, role
    firstName := some pending.firstName, lastName := some pending.lastName
    middleName := pending.middleName.map some, suffix := pending.suffix.map some
    staffId := some (some pending.staffId), positionFull := pending.positionFull.map some
    unitIds := some (pending.unitId.map fun unitId => [(unitId : Rat)])
    autoAssignmentEligible := some false }

def completePendingStaff (s : UserServices) (db : Directory) (staffId email : String) (role : Role) (actorId : Nat) :
    Except HttpException (Directory × User) := do
  check (isStaffId staffId = true) (.badRequest "Invalid staff ID.")
  let admin ← assertPendingStaffAuthority db role actorId
  let pending ← assertPendingStaff db staffId admin
  let (db, saved) ← create s db (pendingStaffDto pending email role) true
  pure ({ db with
    staff := db.staff.map fun staff =>
      if staff.staffId = pending.staffId then { staff with linkedUserId := some saved.id } else staff }, saved)

/-! ## What they leave as it is -/

theorem update_eq_ok {s : UserServices} {db : Directory} {user user' : User} {dto : UpdateUserDto} {options : UpdateOptions}
    (h : update s db user dto options = .ok user') :
    user'.id = user.id ∧ user'.role = dto.role.getD user.role ∧ user'.toMfaColumns = user.toMfaColumns := by
  simp only [update, bind_eq_ok] at h
  obtain ⟨email, -, staffId, -, units, -, h⟩ := h
  cases h
  exact ⟨rfl, rfl, rfl⟩

theorem updatedExisting_eq_ok {db : Directory} {dto : CreateUserDto} {existing user : User}
    (h : updatedExisting db dto existing = .ok user) : user.id = existing.id ∧ user.role = existing.role := by
  simp only [updatedExisting, bind_eq_ok] at h
  obtain ⟨units, -, h⟩ := h
  cases h
  exact ⟨rfl, rfl⟩

theorem newUser_eq_ok {s : UserServices} {db : Directory} {dto : CreateUserDto} {email : String} {user : User}
    (h : newUser s db dto email = .ok user) : user.role = dto.role := by
  simp only [newUser, bind_eq_ok] at h
  obtain ⟨_, -, _, -, units, -, h⟩ := h
  cases h
  rfl

theorem saved_id {row user : User} (h : row.id = user.id) : (Directory.saved row user).id = row.id := by
  unfold Directory.saved
  split_ifs
  · rfl
  · exact h.symm

theorem saved_role (row user : User) : (Directory.saved row user).role = user.role := by
  unfold Directory.saved
  split_ifs with heq
  · exact (congrArg (fun user : User => user.role) heq).symm
  · rfl

end ComplianceHub.Users
