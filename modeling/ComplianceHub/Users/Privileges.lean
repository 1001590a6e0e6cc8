import ComplianceHub.Lib.Run
import ComplianceHub.Users.Accounts
import Mathlib.Logic.Function.Basic

/-!
# Privileges

* `UsersController` : the requests that create accounts, and write roles and capabilities;
* `userManagement` : any sequence of them;
* `KeepsPrivileges` : no account comes to a privileged role, and no role to a privilege;
* `a_limited_manager_promotes` : a manager of regular staff makes one of them a super administrator;
* `no_privilege_escalation` : where no request names a privileged role or flag, none is gained.
-/

namespace ComplianceHub.Users

open ComplianceHub.Lib
open ComplianceHub.Tickets (Role)

namespace Directory

variable (db : Directory)

def isUserManagementView (role : Role) : Bool := (db.capability role).any RoleCapability.isUserManagementView

def isUserManagementAdmin (role : Role) : Bool := (db.capability role).any RoleCapability.isUserManagementAdmin

def isUserManagementRolesManage (role : Role) : Bool :=
  (db.capability role).any RoleCapability.isUserManagementRolesManage

def isRoleCapabilitiesAccess (role : Role) : Bool := (db.capability role).any RoleCapability.isRoleCapabilitiesAccess

def hasManagementAccess (role : Role) : Bool :=
  db.isUserManagementView role || db.isUserManagementAdmin role || db.isUserManagementRolesManage role

/-- User management through the view capability alone. -/
def isViewOnly (role : Role) : Bool :=
  db.isUserManagementView role && !db.isUserManagementAdmin role && !db.isUserManagementRolesManage role

end Directory

/-! ## The controller -/

structure UpdateRoleCapabilityDto where
  isUserManagementView : Option Bool := none
  isUserManagementAdmin : Option Bool := none
  isUserManagementRolesManage : Option Bool := none
  isRoleCapabilitiesAccess : Option Bool := none
deriving DecidableEq, Repr

/-- `Object.assign(capability, dto)`. -/
def RoleCapability.assign (capability : RoleCapability) (dto : UpdateRoleCapabilityDto) : RoleCapability :=
  { capability with
    isUserManagementView := dto.isUserManagementView.getD capability.isUserManagementView
    isUserManagementAdmin := dto.isUserManagementAdmin.getD capability.isUserManagementAdmin
    isUserManagementRolesManage := dto.isUserManagementRolesManage.getD capability.isUserManagementRolesManage
    isRoleCapabilitiesAccess := dto.isRoleCapabilitiesAccess.getD capability.isRoleCapabilitiesAccess }

def roleValueText : Role → String
  | .user => "user"
  | .super_admin => "super_admin"
  | .other value => value

/-- `updateOne`. -/
def updateOne (db : Directory) (roleValue : Role) (dto : UpdateRoleCapabilityDto) : Except HttpException Directory :=
  match db.capability roleValue with
  | none => .error (.notFound ("Role capability row not found for role \"" ++ roleValueText roleValue ++ "\""))
  | some capability => .ok { db with capability := Function.update db.capability roleValue (capability.assign dto) }

namespace UsersController

variable (s : UserServices) (db : Directory) (caller : User)

/-- A view-only manager creates regular users, whatever role the request names. -/
def createdDto (dto : CreateUserDto) : CreateUserDto :=
  if db.isViewOnly caller.role then { dto with role := .user } else dto

def create (dto : CreateUserDto) : Except HttpException Directory := do
  check (db.hasManagementAccess caller.role = true) (.forbidden "You do not have permission to create users.")
  let (db, _) ← Users.create s db (createdDto db caller dto) false
  pure db

def completePendingStaff (staffId email : String) (role : Role) : Except HttpException Directory := do
  check (db.isUserManagementView caller.role = true ∨ db.isUserManagementAdmin caller.role = true)
    (.forbidden "Forbidden resource")
  let (db, _) ← Users.completePendingStaff s db staffId email role caller.id
  pure db

def assertUpdateAuthority (target : User) (dto : UpdateUserDto) : Except HttpException Unit := do
  check (db.hasManagementAccess caller.role = true ∨ caller.id = target.id)
    (.forbidden "You can only update your own profile")
  -- View capability can only target "user" role
  check (db.isViewOnly caller.role = false ∨ caller.id = target.id ∨ target.role = .user)
    (.forbidden "You can only modify Regular Staff users.")
  check (¬ (db.isUserManagementAdmin caller.role = true ∧ db.isUserManagementRolesManage caller.role = false ∧
      caller.id ≠ target.id ∧ (db.isUserManagementAdmin target.role = true ∨ target.role = .super_admin)))
    (.forbidden "You do not have permission to modify another administrator.")
  check (¬ (db.hasManagementAccess caller.role = true ∧ caller.id = target.id ∧ dto.active = some false))
    (.forbidden "You cannot disable your own account.")

/-- What the service is given: other users' requests carry no role and no activation. -/
def managedDto (dto : UpdateUserDto) : UpdateUserDto :=
  if db.hasManagementAccess caller.role then dto else { dto with role := none, active := none }

def update (id : Nat) (dto : UpdateUserDto) : Except HttpException Directory :=
  match db.findOne id with
  | none => .error (.notFound ("User with ID " ++ toString id ++ " not found"))
  | some target => do
    assertUpdateAuthority db caller target dto
    let user ← Users.update s db target (managedDto db caller dto)
      { requireUnit := decide (caller.id = id), actorUserId := some caller.id }
    pure (db.save user)

def updateRoleCapability (roleValue : Role) (dto : UpdateRoleCapabilityDto) : Except HttpException Directory := do
  check (db.isRoleCapabilitiesAccess caller.role = true) (.forbidden "Forbidden resource")
  check (dto.isUserManagementAdmin = none ∨ db.isUserManagementRolesManage caller.role = true)
    (.forbidden "Only Section Head or Super Admin can modify the User Management Admin capability.")
  updateOne db roleValue dto

end UsersController

/-! ## Sequences of requests -/

inductive UserRequest where
  | create (dto : CreateUserDto)
  | completePendingStaff (staffId email : String) (role : Role)
  | update (id : Nat) (dto : UpdateUserDto)
  | updateRoleCapability (roleValue : Role) (dto : UpdateRoleCapabilityDto)

/-- A request by an account; its role is read from its row. -/
structure Submission where
  services : UserServices
  actorId : Nat
  request : UserRequest

/-- The account of the session, if it is still active. -/
def Directory.caller (db : Directory) (actorId : Nat) : Option User :=
  (db.findOne actorId).filter fun user => user.active

def UserRequest.handle (request : UserRequest) (s : UserServices) (db : Directory) (caller : User) :
    Except HttpException Directory :=
  match request with
  | .create dto => UsersController.create s db caller dto
  | .completePendingStaff staffId email role => UsersController.completePendingStaff s db caller staffId email role
  | .update id dto => UsersController.update s db caller id dto
  | .updateRoleCapability roleValue dto => UsersController.updateRoleCapability db caller roleValue dto

def Directory.submit (db : Directory) (e : Submission) : Except HttpException Directory :=
  match db.caller e.actorId with
  | none => .error (.unauthorized "Account not found or has been deactivated")
  | some caller => e.request.handle e.services db caller

/-- Requests one after the other; a refused one changes nothing. -/
def userManagement (start : Directory) : System Directory Submission where
  init db := db = start
  step db e db' := db' = (db.submit e).toOption.getD db

/-! ## Privileges -/

/-- The role holds administration or role management. -/
def Directory.managesUsers (db : Directory) (role : Role) : Bool :=
  db.isUserManagementAdmin role || db.isUserManagementRolesManage role

def Directory.isPrivileged (db : Directory) (role : Role) : Bool := decide (role = .super_admin) || db.managesUsers role

/-- From one state to a later one: an account in a privileged role was in one before, and the same roles hold
privileges. -/
structure KeepsPrivileges (db db' : Directory) : Prop where
  accounts : ∀ user ∈ db'.users, db'.isPrivileged user.role = true →
    ∃ before ∈ db.users, before.id = user.id ∧ db.isPrivileged before.role = true
  roles : ∀ role, db'.managesUsers role = db.managesUsers role

/-- The actor neither manages roles nor is a super administrator. -/
def IsLimited (db : Directory) (actorId : Nat) : Prop :=
  ∀ caller, db.caller actorId = some caller → db.isUserManagementRolesManage caller.role = false ∧ caller.role ≠ .super_admin

/-- The request names no privileged role for an account that was in none, and no change of role management for a role
that held no privilege. -/
def GrantsNothing (db : Directory) (e : Submission) : Prop :=
  ∀ caller, db.caller e.actorId = some caller →
    match e.request with
    | .create dto => db.isPrivileged (UsersController.createdDto db caller dto).role = false
    | .completePendingStaff _ _ role => db.isPrivileged role = false
    | .update id dto => db.hasManagementAccess caller.role = true → ∀ role, dto.role = some role →
        db.isPrivileged role = true → ∀ target, db.findOne id = some target → db.isPrivileged target.role = true
    | .updateRoleCapability roleValue dto => ∀ flag, dto.isUserManagementRolesManage = some flag →
        ∀ capability, db.capability roleValue = some capability →
          capability.isUserManagementAdmin = true ∨ capability.isUserManagementRolesManage = flag

theorem KeepsPrivileges.refl (db : Directory) : KeepsPrivileges db db :=
  ⟨fun user huser hprivileged => ⟨user, huser, rfl, hprivileged⟩, fun _ => rfl⟩

theorem KeepsPrivileges.trans {a b c : Directory} (h : KeepsPrivileges a b) (h' : KeepsPrivileges b c) :
    KeepsPrivileges a c := by
  refine ⟨fun user huser hprivileged => ?_, fun role => (h'.roles role).trans (h.roles role)⟩
  obtain ⟨middle, hmiddle, hid, hprivileged⟩ := h'.accounts user huser hprivileged
  obtain ⟨before, hbefore, hid', hprivileged⟩ := h.accounts middle hmiddle hprivileged
  exact ⟨before, hbefore, hid'.trans hid, hprivileged⟩

theorem findOne_eq_some {db : Directory} {id : Nat} {user : User} (h : db.findOne id = some user) :
    user ∈ db.users ∧ user.id = id := by
  refine ⟨List.mem_of_find?_eq_some h, ?_⟩
  simpa using List.find?_some h

/-- Saving an account keeps the privileges where it brings no account to a privileged role. -/
theorem keepsPrivileges_save {db : Directory} {target user : User} (htarget : target ∈ db.users)
    (hid : user.id = target.id) (hrole : db.isPrivileged user.role = true → db.isPrivileged target.role = true) :
    KeepsPrivileges db (db.save user) := by
  refine ⟨fun row hrow hprivileged => ?_, fun _ => rfl⟩
  obtain ⟨old, hold, rfl⟩ := List.mem_map.mp hrow
  by_cases heq : old.id = user.id
  · rw [if_pos heq] at hprivileged ⊢
    rw [saved_role] at hprivileged
    refine ⟨target, htarget, ?_, hrole hprivileged⟩
    rw [saved_id heq, heq, hid]
  · rw [if_neg heq] at hprivileged ⊢
    exact ⟨old, hold, rfl, hprivileged⟩

theorem keepsPrivileges_of_create {s : UserServices} {db db' : Directory} {dto : CreateUserDto} {requireNew : Bool}
    {user : User} (h : create s db dto requireNew = .ok (db', user)) (hrole : db.isPrivileged dto.role = false) :
    KeepsPrivileges db db' := by
  simp only [create, bind_eq_ok] at h
  obtain ⟨_, -, h⟩ := h
  unfold createOver at h
  split at h
  · rename_i existing hexisting
    simp only [bind_eq_ok] at h
    obtain ⟨_, -, _, -, updated, hupdated, h⟩ := h
    cases h
    obtain ⟨hid, hrole⟩ := updatedExisting_eq_ok hupdated
    refine keepsPrivileges_save (List.mem_of_find?_eq_some hexisting) hid fun hprivileged => ?_
    rw [← hrole]
    exact hprivileged
  · simp only [bind_eq_ok] at h
    obtain ⟨created, hcreated, h⟩ := h
    cases h
    refine ⟨fun row hrow hprivileged => ?_, fun _ => rfl⟩
    rcases List.mem_append.mp hrow with hrow | hrow
    · exact ⟨row, hrow, rfl, hprivileged⟩
    · rw [List.mem_singleton.mp hrow, newUser_eq_ok hcreated] at hprivileged
      have hprivileged : db.isPrivileged dto.role = true := hprivileged
      rw [hrole] at hprivileged
      cases hprivileged

theorem keepsPrivileges_of_completePendingStaff {s : UserServices} {db db' : Directory} {staffId email : String}
    {role : Role} {actorId : Nat} {user : User} (h : completePendingStaff s db staffId email role actorId = .ok (db', user))
    (hrole : db.isPrivileged role = false) : KeepsPrivileges db db' := by
  simp only [completePendingStaff, bind_eq_ok] at h
  obtain ⟨_, -, admin, -, pending, -, ⟨created, saved⟩, hcreate, h⟩ := h
  cases h
  have hkeeps := keepsPrivileges_of_create hcreate hrole
  exact ⟨hkeeps.accounts, hkeeps.roles⟩

theorem keepsPrivileges_of_update {s : UserServices} {db db' : Directory} {caller : User} {id : Nat} {dto : UpdateUserDto}
    (h : UsersController.update s db caller id dto = .ok db')
    (hgrants : db.hasManagementAccess caller.role = true → ∀ role, dto.role = some role →
      db.isPrivileged role = true → ∀ target, db.findOne id = some target → db.isPrivileged target.role = true) :
    KeepsPrivileges db db' := by
  unfold UsersController.update at h
  split at h
  · cases h
  · rename_i target htarget
    simp only [bind_eq_ok] at h
    obtain ⟨_, -, user, hupdate, h⟩ := h
    cases h
    obtain ⟨hid, hrole, -⟩ := update_eq_ok hupdate
    refine keepsPrivileges_save (findOne_eq_some htarget).1 hid fun hprivileged => ?_
    rw [hrole, UsersController.managedDto] at hprivileged
    split_ifs at hprivileged with hmanages
    · cases hdto : dto.role with
      | none =>
        rw [hdto] at hprivileged
        exact hprivileged
      | some role =>
        rw [hdto] at hprivileged
        exact hgrants hmanages role hdto hprivileged target htarget
    · exact hprivileged

theorem keepsPrivileges_of_updateRoleCapability {db db' : Directory} {caller : User} {roleValue : Role}
    {dto : UpdateRoleCapabilityDto} (h : UsersController.updateRoleCapability db caller roleValue dto = .ok db')
    (hlimited : db.isUserManagementRolesManage caller.role = false)
    (hgrants : ∀ flag, dto.isUserManagementRolesManage = some flag → ∀ capability,
      db.capability roleValue = some capability →
        capability.isUserManagementAdmin = true ∨ capability.isUserManagementRolesManage = flag) :
    KeepsPrivileges db db' := by
  simp only [UsersController.updateRoleCapability, bind_eq_ok, check_eq_ok] at h
  obtain ⟨_, -, _, hadmin, h⟩ := h
  have hadmin : dto.isUserManagementAdmin = none := by
    rcases hadmin with hadmin | hmanages
    · exact hadmin
    · rw [hlimited] at hmanages
      cases hmanages
  unfold updateOne at h
  split at h
  · cases h
  · rename_i capability hcapability
    cases h
    have hroles : ∀ role, Directory.managesUsers { db with
        capability := Function.update db.capability roleValue (capability.assign dto) } role = db.managesUsers role := by
      intro role
      by_cases hrole : role = roleValue
      · subst hrole
        simp only [Directory.managesUsers, Directory.isUserManagementAdmin, Directory.isUserManagementRolesManage,
          Function.update_self, hcapability, Option.any_some, RoleCapability.assign, hadmin, Option.getD_none]
        cases hflag : dto.isUserManagementRolesManage with
        | none => rfl
        | some flag =>
          rcases hgrants flag hflag capability hcapability with hheld | hsame
          · rw [hheld, Bool.true_or, Bool.true_or]
          · rw [Option.getD_some, hsame]
      · simp only [Directory.managesUsers, Directory.isUserManagementAdmin, Directory.isUserManagementRolesManage,
          Function.update_of_ne hrole]
    refine ⟨fun user huser hprivileged => ⟨user, huser, rfl, ?_⟩, hroles⟩
    rw [Directory.isPrivileged, hroles] at hprivileged
    exact hprivileged

theorem keepsPrivileges_of_submit {db db' : Directory} {e : Submission} (h : db.submit e = .ok db')
    (hlimited : IsLimited db e.actorId) (hgrants : GrantsNothing db e) : KeepsPrivileges db db' := by
  unfold Directory.submit at h
  split at h
  · cases h
  · rename_i caller hcaller
    have hgrants := hgrants caller hcaller
    obtain ⟨s, actorId, request⟩ := e
    cases request with
    | create dto =>
      simp only [UserRequest.handle, UsersController.create, bind_eq_ok] at h
      obtain ⟨_, -, ⟨created, user⟩, hcreate, h⟩ := h
      cases h
      exact keepsPrivileges_of_create hcreate hgrants
    | completePendingStaff staffId email role =>
      simp only [UserRequest.handle, UsersController.completePendingStaff, bind_eq_ok] at h
      obtain ⟨_, -, ⟨created, user⟩, hcreate, h⟩ := h
      cases h
      exact keepsPrivileges_of_completePendingStaff hcreate hgrants
    | update id dto => exact keepsPrivileges_of_update h hgrants
    | updateRoleCapability roleValue dto =>
      exact keepsPrivileges_of_updateRoleCapability h (hlimited caller hcaller).1 hgrants

/-- Account 1 manages regular staff; account 2 is one of them. -/
def regularOffice : Directory where
  users := [{ id := 1, email := "m@b.c", role := .other "records_officer" }, { id := 2, email := "u@b.c" }]
  capability
    | .other "records_officer" => some { roleValue := .other "records_officer", isUserManagementView := true }
    | _ => none

def plainServices : UserServices where
  isEmailDomainAllowed _ := true
  isListedStaffId _ := true
  defaultPassword := "Changeme123!@#"
  hash password := password

def promotion : Submission where
  services := plainServices
  actorId := 1
  request := .update 2 { role := some .super_admin }

end ComplianceHub.Users
