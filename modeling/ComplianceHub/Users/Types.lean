import ComplianceHub.Tickets.Types

/-!
# Accounts and role capabilities

* `User` : a row of `users`, its columns grouped as the services use them;
* `RoleCapability` : the columns of `role_capabilities` that guard user management.

Accounts are never deleted: `remove` makes them inactive. `updatedAt` is a version.
-/

namespace ComplianceHub.Users

open ComplianceHub.Tickets (Role)

/-- A verification code. Codes of different issuances are distinct, so a number stands for the issuance too. -/
abbrev Code := Nat

structure MfaColumns where
  mfaCode : Option Code := none
  mfaExpiresAt : Option Int := none
  mfaLastVerifiedAt : Option Int := none
  mfaAttempts : Nat := 0
  mfaChallengeAttempts : Nat := 0
  mfaLockedUntil : Option Int := none
deriving DecidableEq, Repr

inductive AuthProvider where
  | local
  | google
deriving DecidableEq, Repr

/-- A row of `units`. -/
structure UnitRow where
  id : Nat
  name : String
  active : Bool := true
  hasReportorialRequirements : Bool := false
deriving DecidableEq, Repr

structure UserProfile where
  email : String
  passwordHash : String := ""
  firstName : Option String := none
  middleName : Option String := none
  lastName : Option String := none
  suffix : Option String := none
  phoneNumber : Option String := none
  sex : Option String := none
  staffId : Option String := none
  position : Option String := none
  positionFull : Option String := none
  designation : Option String := none
  authProvider : AuthProvider := .local
  googleSub : Option String := none
  role : Role := .user
  active : Bool := true
  autoAssignmentEligible : Bool := true
  units : List UnitRow := []
deriving DecidableEq, Repr

structure User extends UserProfile, MfaColumns where
  id : Nat
  updatedAt : Nat := 0
deriving DecidableEq, Repr

/-- A row of `role_capabilities`. -/
structure RoleCapability where
  roleValue : Role
  isUserManagementView : Bool := false
  isUserManagementAdmin : Bool := false
  isUserManagementRolesManage : Bool := false
  isRoleCapabilitiesAccess : Bool := false
deriving DecidableEq, Repr

end ComplianceHub.Users
