import ComplianceHub.Lib.Rows
import ComplianceHub.Users.Types

/-!
# Who may sign in and who receives the code

* `PolicyDb` : the policy row, the accounts with their units, and the grant that exempts a role;
* `evaluateApproval`, `decideAccountAccess`, `decide` : the approval of an account, of a sign-in and of a message;
* `Approved` : what an approval comes to under a restriction;
* `access_iff_security_mail` : when a sign-in and the message with its code are decided alike.

A list that is no array is none. Letter case is that of ASCII, for the language and for the database.
-/

namespace ComplianceHub.Users

/-- The columns of row 1 of `security_config` that the policy reads. -/
structure OutboundEmailConfig where
  outboundEmailUnitRestrictionEnabled : Option Bool := some false
  outboundEmailAllowedUnitIds : Option (List Nat) := none
deriving DecidableEq, Repr

/-- The columns of `role_capabilities` that the policy reads. -/
structure SecurityCapability where
  roleValue : Tickets.Role
  isSecuritySettingsAccess : Bool := false
deriving DecidableEq, Repr

/-- The rows the policy reads. An id is the key of its account. -/
structure PolicyDb where
  config : Option OutboundEmailConfig := none
  users : List User := []
  capabilities : List SecurityCapability := []
  keyed : (users.map (·.id)).Nodup := by decide

inductive DecisionReason where
  | restriction_disabled
  | unit_allowed
  | security_admin_exempt
  | no_units_selected
  | recipient_not_eligible
  | unit_not_allowed
  | policy_unavailable
deriving DecidableEq, Repr

structure OutboundEmailDecision where
  allowed : Bool
  reason : DecisionReason
  recipientUserId : Option Nat := none
deriving DecidableEq, Repr

inductive EmailPurpose where
  | routine
  | security
deriving DecidableEq, Repr

namespace PolicyDb

/-- The persisted grant of a role. -/
def grants (db : PolicyDb) (role : Tickets.Role) : Bool :=
  match db.capabilities.find? (·.roleValue = role) with
  | some capability => capability.isSecuritySettingsAccess
  | none => false

def evaluateApproval (db : PolicyDb) (user : User) (config : OutboundEmailConfig) (exemptSecurityManagers : Bool) :
    OutboundEmailDecision :=
  if exemptSecurityManagers && db.grants user.role then
    { allowed := true, reason := .security_admin_exempt, recipientUserId := some user.id }
  else
    match config.outboundEmailAllowedUnitIds with
    | none => { allowed := false, reason := .policy_unavailable }
    | some [] => { allowed := false, reason := .no_units_selected, recipientUserId := some user.id }
    | some allowedIds =>
      let allowed := user.units.any fun unit => unit.active && allowedIds.contains unit.id
      { allowed, reason := if allowed then .unit_allowed else .unit_not_allowed, recipientUserId := some user.id }

def decideAccountAccess (db : PolicyDb) (userId : Nat) : OutboundEmailDecision :=
  match db.config with
  | none => { allowed := false, reason := .policy_unavailable }
  | some config =>
    match config.outboundEmailUnitRestrictionEnabled with
    | none => { allowed := false, reason := .policy_unavailable }
    | some enabled =>
      match db.users.find? fun user => user.id = userId && user.active with
      | none => { allowed := false, reason := .recipient_not_eligible }
      | some user =>
        if !enabled then { allowed := true, reason := .restriction_disabled, recipientUserId := some user.id }
        else db.evaluateApproval user config true

def assertAccountAccess (db : PolicyDb) (userId : Nat) : Except HttpException Unit :=
  let decision := db.decideAccountAccess userId
  if decision.reason = .policy_unavailable then
    .error (.serviceUnavailable "Application access could not be verified. Please try again.")
  else if !decision.allowed then
    .error (.unauthorized "Application access is not approved for your account. Please contact your administrator.")
  else .ok ()

/-- The active accounts of an address: blanks around the address do not count, blanks around a stored one do. -/
def addressees (db : PolicyDb) (recipientEmail : String) : List User :=
  db.users.filter fun user => user.email.toLower = (trim recipientEmail).toLower && user.active

def decide (db : PolicyDb) (recipientEmail : String) (purpose : EmailPurpose) : OutboundEmailDecision :=
  match db.config with
  | none => { allowed := false, reason := .policy_unavailable }
  | some config =>
    match config.outboundEmailUnitRestrictionEnabled, config.outboundEmailAllowedUnitIds with
    | some false, _ => { allowed := true, reason := .restriction_disabled }
    | none, _ | _, none => { allowed := false, reason := .policy_unavailable }
    | some true, some allowedIds =>
      if allowedIds.isEmpty && purpose ≠ .security then { allowed := false, reason := .no_units_selected }
      else
        match db.addressees recipientEmail with
        | [user] => db.evaluateApproval user config (purpose = .security)
        | _ => { allowed := false, reason := .recipient_not_eligible }

/-! ## Approval -/

/-- The role is exempt, or one of the active units is on the list. -/
def Approved (db : PolicyDb) (config : OutboundEmailConfig) (user : User) : Prop :=
  db.grants user.role = true ∨
    ∃ unit ∈ user.units, unit.active = true ∧ unit.id ∈ config.outboundEmailAllowedUnitIds.getD []

theorem allowed_iff_approved (db : PolicyDb) (user : User) (config : OutboundEmailConfig) :
    (db.evaluateApproval user config true).allowed = true ↔ db.Approved config user := by
  unfold evaluateApproval Approved
  by_cases hgrant : db.grants user.role = true
  · simp [hgrant]
  rcases hlist : config.outboundEmailAllowedUnitIds with _ | _ | ⟨id, ids⟩ <;> simp [hgrant]

theorem approved_without_list {db : PolicyDb} {config : OutboundEmailConfig} {user : User}
    (h : config.outboundEmailAllowedUnitIds = none) : db.Approved config user ↔ db.grants user.role = true := by
  simp [Approved, h]

/-- An active account is found by its id. -/
theorem find_account {db : PolicyDb} {user : User} (hmem : user ∈ db.users) (hactive : user.active = true) :
    db.users.find? (fun row => row.id = user.id && row.active) = some user := by
  refine Lib.find?_of_unique hmem (by simp [hactive]) ?_
  intro row hrow hfound
  simp only [Bool.and_eq_true, decide_eq_true_eq] at hfound
  exact List.inj_on_of_nodup_map db.keyed hrow hmem hfound.1

/-- The account of an address without outer blanks that no other active account has. -/
theorem addressees_eq {db : PolicyDb} {user : User} (hmem : user ∈ db.users) (hactive : user.active = true)
    (hunique : ∀ row ∈ db.users, row.active = true → row.email.toLower = user.email.toLower → row = user)
    (htrim : trim user.email = user.email) : db.addressees user.email = [user] := by
  unfold addressees
  rw [htrim]
  refine Lib.filter_of_unique (List.Nodup.of_map _ db.keyed) hmem (by simp [hactive]) ?_
  intro row hrow hfound
  simp only [Bool.and_eq_true, decide_eq_true_eq] at hfound
  exact hunique row hrow hfound.2 hfound.1

/-! ## Sign-ins and messages -/

section
variable {db : PolicyDb} {user : User} {config : OutboundEmailConfig}

/-- An active account signs in where there is no restriction, or under it where it is approved. -/
theorem access_allowed_iff (hmem : user ∈ db.users) (hactive : user.active = true) :
    (db.decideAccountAccess user.id).allowed = true ↔ ∃ config enabled, db.config = some config ∧
      config.outboundEmailUnitRestrictionEnabled = some enabled ∧ (enabled = true → db.Approved config user) := by
  unfold decideAccountAccess
  rw [find_account hmem hactive]
  cases hconfig : db.config with
  | none => simp
  | some config =>
    cases henabled : config.outboundEmailUnitRestrictionEnabled with
    | none => simp [henabled]
    | some enabled => cases enabled <;> simp [henabled, allowed_iff_approved]

theorem assertAccountAccess_eq_ok (db : PolicyDb) (userId : Nat) :
    db.assertAccountAccess userId = .ok () ↔ (db.decideAccountAccess userId).allowed = true := by
  have hunavailable : (db.decideAccountAccess userId).reason = .policy_unavailable →
      (db.decideAccountAccess userId).allowed = false := by
    unfold decideAccountAccess evaluateApproval
    grind
  unfold assertAccountAccess
  grind

/-- A code is mailed where there is no restriction, or under it, with a list, where the one addressee is approved. -/
theorem security_mail_allowed_iff (recipientEmail : String) :
    (db.decide recipientEmail .security).allowed = true ↔ ∃ config enabled, db.config = some config ∧
      config.outboundEmailUnitRestrictionEnabled = some enabled ∧
      (enabled = true → config.outboundEmailAllowedUnitIds.isSome = true ∧
        ∃ addressee, db.addressees recipientEmail = [addressee] ∧ db.Approved config addressee) := by
  unfold decide
  cases hconfig : db.config with
  | none => simp
  | some config =>
    rcases henabled : config.outboundEmailUnitRestrictionEnabled with _ | _ | _
    · simp [henabled]
    · simp [henabled]
    · cases hlist : config.outboundEmailAllowedUnitIds with
      | none => simp [henabled, hlist]
      | some allowedIds =>
        rcases hfound : db.addressees recipientEmail with _ | ⟨addressee, _ | ⟨other, rest⟩⟩ <;>
          simp [henabled, hlist, allowed_iff_approved]

/-- No code is mailed to an account that may not sign in. -/
theorem access_of_security_mail (hmem : user ∈ db.users) (hactive : user.active = true)
    (hunique : ∀ row ∈ db.users, row.active = true → row.email.toLower = user.email.toLower → row = user)
    (htrim : trim user.email = user.email) (h : (db.decide user.email .security).allowed = true) :
    (db.decideAccountAccess user.id).allowed = true := by
  obtain ⟨config, enabled, hconfig, henabled, happroved⟩ := (security_mail_allowed_iff _).mp h
  refine (access_allowed_iff hmem hactive).mpr ⟨config, enabled, hconfig, henabled, ?_⟩
  intro hon
  obtain ⟨-, addressee, hfound, happroved⟩ := happroved hon
  rw [addressees_eq hmem hactive hunique htrim] at hfound
  obtain rfl : user = addressee := by simpa using hfound
  exact happroved

/-- A sign-in and the message with its code are decided alike but for an exempt role under a restriction without a
list, and for an address that is stored with outer blanks. -/
theorem access_iff_security_mail (db : PolicyDb) (user : User) (hmem : user ∈ db.users) (hactive : user.active = true)
    (hunique : ∀ row ∈ db.users, row.active = true → row.email.toLower = user.email.toLower → row = user) :
    ((db.decideAccountAccess user.id).allowed = true ↔ (db.decide user.email .security).allowed = true) ↔
      ∀ config, db.config = some config → config.outboundEmailUnitRestrictionEnabled = some true →
        (config.outboundEmailAllowedUnitIds = none → db.grants user.role = false) ∧
        (config.outboundEmailAllowedUnitIds.isSome = true → trim user.email ≠ user.email →
          (db.Approved config user ↔ ∃ addressee, db.addressees user.email = [addressee] ∧
            db.Approved config addressee)) := by
  rw [access_allowed_iff hmem hactive, security_mail_allowed_iff]
  cases hconfig : db.config with
  | none => simp
  | some config =>
    rcases henabled : config.outboundEmailUnitRestrictionEnabled with _ | _ | _
    · simp [henabled]
    · simp [henabled]
    · cases hlist : config.outboundEmailAllowedUnitIds with
      | none =>
        rw [← Bool.not_eq_true, ← approved_without_list hlist]
        simp [henabled, hlist]
      | some allowedIds =>
        by_cases htrim : trim user.email = user.email
        · rw [addressees_eq hmem hactive hunique htrim]
          simp [henabled, hlist, htrim]
        · simp [henabled, hlist, htrim]

end

/-- The restriction is on, and no list has been saved. -/
def restrictedWithoutList : PolicyDb where
  config := some { outboundEmailUnitRestrictionEnabled := some true }
  users := [{ id := 1, email := "security.officer@example.gov", role := .other "cybersec" }]
  capabilities := [{ roleValue := .other "cybersec", isSecuritySettingsAccess := true }]

/-- The security officer may sign in, and the code is not mailed. -/
theorem officer_is_locked_out :
    ¬ ∀ (db : PolicyDb) (user : User), user ∈ db.users → user.active = true →
      (∀ row ∈ db.users, row.active = true → row.email.toLower = user.email.toLower → row = user) →
      ((db.decideAccountAccess user.id).allowed = true ↔ (db.decide user.email .security).allowed = true) := by
  intro h
  have hofficer := h restrictedWithoutList { id := 1, email := "security.officer@example.gov", role := .other "cybersec" }
    (by decide) rfl (fun row hrow _ _ => by simpa [restrictedWithoutList] using hrow)
  exact absurd (hofficer.mp (by decide +kernel)) (by decide +kernel)

/-- The restriction is on, and unit 3 is on the list. -/
def restrictedToUnit : PolicyDb where
  config := some { outboundEmailUnitRestrictionEnabled := some true, outboundEmailAllowedUnitIds := some [3] }
  users := [{ id := 1, email := "Clerk@example.gov", units := [{ id := 3, name := "Records" }] }]

theorem clerk_is_decided_alike : (restrictedToUnit.decideAccountAccess 1).allowed = true ↔
    (restrictedToUnit.decide "Clerk@example.gov" .security).allowed = true := by
  refine (access_iff_security_mail restrictedToUnit
    { id := 1, email := "Clerk@example.gov", units := [{ id := 3, name := "Records" }] } (by decide) rfl
    (fun row hrow _ _ => by simpa [restrictedToUnit] using hrow)).mpr ?_
  rintro config ⟨⟩ -
  constructor
  · intro hnone
    cases hnone
  · intro _ htrim
    exact absurd (by decide +kernel) htrim

end PolicyDb

end ComplianceHub.Users
