import ComplianceHub.Common
import ComplianceHub.Users.Types

/-!
# MFA challenges

The transactions that write the MFA columns of an account, each under the lock of its row.

* `updateMfaCode` : a code is issued, for a new login or as a resend;
* `consumeMfaChallenge` : a guess is compared, and counted when it is wrong;
* `unlockMfa` : an account manager clears the challenge, the counters, the lock and the trusted devices;
* `addTrustedDevice` : a verified login registers a device.

Each transaction reads its clock once. The columns keep whole seconds (`timestamp`).
-/

namespace ComplianceHub.Users

open ComplianceHub.Tickets (Role)

def MFA_CODE_TTL_MS : Int := 15 * 60 * 1000

def MFA_RESEND_INTERVAL_SECONDS : Int := 60

inductive MfaFailureCode where
  | MFA_INVALID_CODE
  | MFA_CHALLENGE_EXHAUSTED
  | MFA_CHALLENGE_UNAVAILABLE
  | MFA_CHALLENGE_EXPIRED
  | MFA_ACCOUNT_LOCKED
  | MFA_ACCOUNT_UNAVAILABLE
  | MFA_RESEND_COOLDOWN
deriving DecidableEq, Repr

inductive MfaFailureDetails where
  | none
  | attemptsRemaining (count : Nat)
  | retryAfterSeconds (seconds : Int)
deriving DecidableEq, Repr

structure MfaFailure where
  statusCode : Nat
  code : MfaFailureCode
  message : String
  details : MfaFailureDetails
deriving DecidableEq, Repr

def mfaFailure (statusCode : Nat) (code : MfaFailureCode) (message : String) (details : MfaFailureDetails := .none) :
    MfaFailure :=
  { statusCode, code, message, details }

/-- What a `timestamp` column keeps of an instant: the nearest second, halves upwards. -/
def timestamp (time : Int) : Int := (time + 500) / 1000 * 1000

theorem lt_timestamp {time later : Int} (h : time + 500 ≤ later) : time < timestamp later := by
  unfold timestamp
  omega

/-- The lock has not expired. -/
def User.isLocked (user : User) (now : Int) : Bool := user.mfaLockedUntil.any fun lockedUntil => now < lockedUntil

/-! ## Issuing -/

/-- A resend needs a code that is still good, and sixty seconds since it was issued. Every issuance uses the same
TTL, so the expiry also identifies the issuance time. -/
def assertResend (user : User) (now : Int) : Except MfaFailure Unit :=
  let unavailable := mfaFailure 401 .MFA_CHALLENGE_UNAVAILABLE "No active verification code. Please sign in again."
  match user.mfaCode, user.mfaExpiresAt with
  | some _, some expiration => do
    check (now < expiration) unavailable
    let retryAfterSeconds := (expiration - MFA_CODE_TTL_MS + MFA_RESEND_INTERVAL_SECONDS * 1000 - now + 999) / 1000
    check (retryAfterSeconds ≤ 0) (mfaFailure 429 .MFA_RESEND_COOLDOWN
      "Please wait before requesting another verification code." (.retryAfterSeconds retryAfterSeconds))
  | _, _ => .error unavailable

def assertIssuable (user : User) (resend : Bool) (now : Int) : Except MfaFailure Unit :=
  if resend then assertResend user now else .ok ()

/-- The row with its new code. An old lock starts a fresh attempt allowance. -/
def issued (user : User) (code : Code) (expiresAt : Int) (resend : Bool) : User :=
  { user with
    mfaCode := some code
    mfaExpiresAt := some (timestamp expiresAt)
    mfaChallengeAttempts := if resend then user.mfaChallengeAttempts else 0
    mfaAttempts := if user.mfaLockedUntil.isSome then 0 else user.mfaAttempts
    mfaLockedUntil := none
    updatedAt := user.updatedAt + 1 }

def updateMfaCode (user : User) (code : Code) (expiresAt : Int) (resend : Bool) (now : Int) :
    Except MfaFailure User := do
  check (user.active = true)
    (mfaFailure 403 .MFA_ACCOUNT_UNAVAILABLE "Account is unavailable. Please sign in again.")
  check (user.isLocked now = false)
    (mfaFailure 429 .MFA_ACCOUNT_LOCKED "Your account is locked for 15 minutes after repeated MFA failures.")
  assertIssuable user resend now
  pure (issued user code expiresAt resend)

/-! ## Consuming -/

/-- The failures that count: those before an old lock no longer do. -/
def countedAttempts (user : User) : Nat := if user.mfaLockedUntil.isSome then 0 else user.mfaAttempts

def countedChallengeAttempts (user : User) : Nat := if user.mfaLockedUntil.isSome then 0 else user.mfaChallengeAttempts

/-- The ninth failure locks the account. -/
def failedLock (user : User) (now : Int) : Option Int :=
  if 9 ≤ countedAttempts user + 1 then some (timestamp (now + 15 * 60 * 1000)) else none

/-- The third failure of a challenge, or a lock, ends the challenge. -/
def endsChallenge (user : User) (now : Int) : Bool := (failedLock user now).isSome || 3 ≤ countedChallengeAttempts user + 1

/-- The row after a wrong guess. -/
def failed (user : User) (now : Int) : User :=
  { user with
    mfaAttempts := countedAttempts user + 1
    mfaChallengeAttempts := countedChallengeAttempts user + 1
    mfaLockedUntil := failedLock user now
    mfaCode := if endsChallenge user now then none else user.mfaCode
    mfaExpiresAt := if endsChallenge user now then none else user.mfaExpiresAt
    updatedAt := user.updatedAt + 1 }

def wrongGuess (user : User) (now : Int) : MfaFailure :=
  if (failedLock user now).isSome then
    mfaFailure 429 .MFA_ACCOUNT_LOCKED "Too many invalid MFA attempts. Your account is locked for 15 minutes."
  else if endsChallenge user now then
    mfaFailure 401 .MFA_CHALLENGE_EXHAUSTED "Three MFA attempts failed. Please log in again to request a new code."
  else
    mfaFailure 400 .MFA_INVALID_CODE
      ("Invalid verification code. Attempt " ++ toString (countedChallengeAttempts user + 1) ++ " of 3 for this login.")
      (.attemptsRemaining (3 - (countedChallengeAttempts user + 1)))

/-- The row after the right guess. -/
def verified (user : User) (now : Int) : User :=
  { user with
    mfaCode := none, mfaExpiresAt := none, mfaLastVerifiedAt := some (timestamp now), mfaAttempts := 0
    mfaChallengeAttempts := 0, mfaLockedUntil := none, updatedAt := user.updatedAt + 1 }

/-- The guesses that are compared with the stored code: the account is active and not locked, and a code is stored
that has not expired. A guess that is no code is `none`. -/
def isEvaluated (user : User) (now : Int) : Bool :=
  user.active && !user.isLocked now && user.mfaCode.isSome && user.mfaExpiresAt.any fun expiresAt => now ≤ expiresAt

/-- Failures are committed before they are raised, so both come back. -/
def consumeMfaChallenge (user : User) (guess : Option Code) (now : Int) : Option MfaFailure × User :=
  if user.active = false then
    (some (mfaFailure 401 .MFA_ACCOUNT_UNAVAILABLE "Account is unavailable. Please sign in again."), user)
  else if user.isLocked now then
    (some (mfaFailure 429 .MFA_ACCOUNT_LOCKED <|
      "Your account is locked for 15 minutes after repeated MFA failures. Wait for the lock to expire or contact " ++
        "an authorized account manager."), user)
  else
    match user.mfaCode, user.mfaExpiresAt with
    | some code, some expiresAt =>
      if expiresAt < now then
        (some (mfaFailure 400 .MFA_CHALLENGE_EXPIRED
          "Verification code has expired. Please sign in again to request a new one."), user)
      else if some code ≠ guess then (some (wrongGuess user now), failed user now)
      else (none, verified user now)
    | _, _ =>
      (some (mfaFailure 400 .MFA_CHALLENGE_UNAVAILABLE
        "No verification code found. Please log in again to request a new code."), user)

/-! ## Recovery -/

structure UnlockMfaDto where
  identityVerified : Bool
  reason : String
  expectedRecoveryVersion : String
deriving DecidableEq, Repr

/-- Who asks for a recovery, and what the transaction reads beside the locked account. -/
structure RecoveryRequest where
  actorId : Nat
  actor : Option User
  dto : UnlockMfaDto
  /-- The rows of `role_capabilities`. -/
  capability : Role → Option RoleCapability
  /-- The audit row can be written, so the unlock commits with it. -/
  auditAvailable : Bool

/-- The state of a challenge that a recovery version stands for. -/
structure MfaRecoveryState where
  id : Nat
  mfaCode : Option Code
  mfaExpiresAt : Option Int
  mfaAttempts : Nat
  mfaChallengeAttempts : Nat
  mfaLockedUntil : Option Int
  updatedAt : Nat
deriving DecidableEq, Repr

/-- Failures are pending, or the account is locked. -/
def mfaRecoveryRequired (user : User) (now : Int) : Bool :=
  0 < user.mfaAttempts || 0 < user.mfaChallengeAttempts || user.isLocked now

/-- Opaque precondition: the keyed hash of the state of the challenge. -/
def mfaRecoveryVersion (hmac : MfaRecoveryState → String) (user : User) : String :=
  hmac {
    id := user.id, mfaCode := user.mfaCode, mfaExpiresAt := user.mfaExpiresAt, mfaAttempts := user.mfaAttempts
    mfaChallengeAttempts := user.mfaChallengeAttempts, mfaLockedUntil := user.mfaLockedUntil
    updatedAt := user.updatedAt }

/-- `/^[a-f0-9]{64}$/`. -/
def isRecoveryVersion (version : String) : Bool :=
  version.length = 64 && version.toList.all fun c => ('a' ≤ c && c ≤ 'f') || ('0' ≤ c && c ≤ '9')

def assertMfaRecoveryAuthority (actor : Option User) (target : User) (capability : Role → Option RoleCapability) :
    Except HttpException Unit :=
  match actor.filter fun actor => actor.active && target.active && actor.id ≠ target.id with
  | none => .error (.forbidden "MFA recovery requires another active account manager.")
  | some actor => do
    let actorCap := capability actor.role
    let elevated := actorCap.any RoleCapability.isUserManagementRolesManage
    let admin := actorCap.any RoleCapability.isUserManagementAdmin
    let limited := actorCap.any RoleCapability.isUserManagementView
    let targetAdmin := (capability target.role).any RoleCapability.isUserManagementAdmin
    check (elevated ∨ admin ∨ limited) (.forbidden "You do not have permission to unlock MFA.")
    check (target.role ≠ .super_admin ∨ actor.role = .super_admin)
      (.forbidden "Only another Super Administrator can recover this account.")
    check (admin ∨ elevated ∨ target.role = .user)
      (.forbidden "You can only unlock MFA for Regular Staff accounts.")
    check (¬ (admin ∧ ¬ elevated ∧ (targetAdmin ∨ target.role = .super_admin)))
      (.forbidden "You do not have permission to recover another administrator.")

/-- The row without challenge, failures, lock and proof of verification. -/
def recovered (user : User) : User :=
  { user with
    mfaCode := none, mfaExpiresAt := none, mfaLastVerifiedAt := none, mfaAttempts := 0, mfaChallengeAttempts := 0
    mfaLockedUntil := none, updatedAt := user.updatedAt + 1 }

/-- The row after an unlock that changed it, none where there was nothing to recover. With the row the trusted
devices go. -/
def unlockMfa (hmac : MfaRecoveryState → String) (user : User) (request : RecoveryRequest) (now : Int) :
    Except HttpException (Option User) := do
  check (0 < request.actorId ∧ 0 < user.id) (.badRequest "Invalid account identity.")
  let reason := trim request.dto.reason
  check (request.dto.identityVerified = true ∧ 10 ≤ reason.length ∧ reason.length ≤ 500 ∧
      isRecoveryVersion request.dto.expectedRecoveryVersion = true)
    (.badRequest "Identity confirmation, a valid reason and current recovery state are required.")
  assertMfaRecoveryAuthority request.actor user request.capability
  if mfaRecoveryRequired user now then
    check (mfaRecoveryVersion hmac user = request.dto.expectedRecoveryVersion)
      (.conflict "The account MFA state changed. Refresh the user list and review it again.")
    check (request.auditAvailable = true) (.internalServerError "Audit database is unavailable.")
    pure (some (recovered user))
  else pure none

/-! ## Trusted devices -/

/-- A trusted device of the account. -/
structure UserTrustedDevice where
  deviceToken : String
  expiresAt : Int
deriving DecidableEq, Repr

/-- The device added, or extended when it is known already. -/
def registered (devices : List UserTrustedDevice) (device : UserTrustedDevice) : List UserTrustedDevice :=
  if devices.any fun known => known.deviceToken = device.deviceToken then
    devices.map fun known => if known.deviceToken = device.deviceToken then device else known
  else devices ++ [device]

/-- The verification that a login was given still stands. -/
def isCurrentVerification (user : User) (verifiedAt : Option Int) (now : Int) : Bool :=
  user.active && verifiedAt.isSome && user.mfaLastVerifiedAt = verifiedAt && !mfaRecoveryRequired user now &&
    user.mfaCode.isNone

def addTrustedDevice (user : User) (devices : List UserTrustedDevice) (deviceToken : String) (verifiedAt : Option Int)
    (now : Int) : Except HttpException (List UserTrustedDevice) := do
  check (isCurrentVerification user verifiedAt now = true)
    (.forbidden "MFA verification changed. Sign in again for a fresh code.")
  pure (registered devices { deviceToken, expiresAt := timestamp (now + 7 * 24 * 60 * 60 * 1000) })

/-! ## What the transactions do -/

theorem updateMfaCode_eq_ok {user user' : User} {code : Code} {expiresAt : Int} {resend : Bool} {now : Int}
    (h : updateMfaCode user code expiresAt resend now = .ok user') :
    user.isLocked now = false ∧ (resend = true → user.mfaCode.isSome = true) ∧
      user' = issued user code expiresAt resend := by
  simp only [updateMfaCode, bind_eq_ok, check_eq_ok] at h
  obtain ⟨-, -, -, hlocked, _, hresend, h⟩ := h
  cases h
  refine ⟨hlocked, fun hr => ?_, rfl⟩
  rw [assertIssuable, if_pos hr, assertResend] at hresend
  split at hresend
  · rename_i code expiration hcode _
    rw [hcode]
    rfl
  · cases hresend

theorem isEvaluated_iff {user : User} {now : Int} : isEvaluated user now = true ↔
    user.active = true ∧ user.isLocked now = false ∧
      ∃ code expiresAt, user.mfaCode = some code ∧ user.mfaExpiresAt = some expiresAt ∧ now ≤ expiresAt := by
  simp [isEvaluated, Option.isSome_iff_exists, Option.any_eq_true, and_assoc]

/-- A failure that does not end the challenge leaves no lock. -/
theorem endsChallenge_eq_false {user : User} {now : Int} (h : endsChallenge user now = false) :
    failedLock user now = none ∧ countedChallengeAttempts user + 1 < 3 := by
  rw [endsChallenge, Bool.or_eq_false_iff, Option.isSome_eq_false_iff, Option.isNone_iff_eq_none,
    decide_eq_false_iff_not, not_le] at h
  exact h

/-- A guess leaves the row as it is, is wrong and counted, or is right. -/
theorem consumeMfaChallenge_cases (user : User) (guess : Option Code) (now : Int) :
    (isEvaluated user now = false ∧ (consumeMfaChallenge user guess now).1 ≠ none ∧
        (consumeMfaChallenge user guess now).2 = user) ∨
      (isEvaluated user now = true ∧ user.mfaCode ≠ guess ∧ (consumeMfaChallenge user guess now).1 ≠ none ∧
        (consumeMfaChallenge user guess now).2 = failed user now) ∨
      (isEvaluated user now = true ∧ user.mfaCode = guess ∧
        consumeMfaChallenge user guess now = (none, verified user now)) := by
  unfold consumeMfaChallenge isEvaluated
  cases hactive : user.active with
  | false => simp
  | true =>
    cases hlocked : user.isLocked now with
    | true => simp
    | false =>
      cases hcode : user.mfaCode with
      | none => simp
      | some code =>
        cases hexpires : user.mfaExpiresAt with
        | none => simp
        | some expiresAt =>
          by_cases hexpired : expiresAt < now
          · simp [hexpired]
          · by_cases hguess : some code = guess
            · subst hguess
              simp [hexpired, not_lt.mp hexpired]
            · simp [hexpired, hguess, not_lt.mp hexpired]

theorem consumeMfaChallenge_eq_none {user : User} {guess : Option Code} {now : Int} :
    (consumeMfaChallenge user guess now).1 = none ↔ isEvaluated user now = true ∧ user.mfaCode = guess := by
  rcases consumeMfaChallenge_cases user guess now with ⟨hno, hfails, -⟩ | ⟨-, hwrong, hfails, -⟩ | ⟨hyes, hright, heq⟩
  · simp [hno, hfails]
  · simp [hwrong, hfails]
  · simp [hyes, hright, heq]

theorem unlockMfa_eq_some {hmac : MfaRecoveryState → String} {user user' : User} {request : RecoveryRequest} {now : Int}
    (h : unlockMfa hmac user request now = .ok (some user')) : user' = recovered user := by
  simp only [unlockMfa, bind_eq_ok] at h
  obtain ⟨-, -, -, -, -, -, h⟩ := h
  split_ifs at h
  · simp only [bind_eq_ok] at h
    obtain ⟨-, -, -, -, h⟩ := h
    cases h
    rfl
  · cases h

end ComplianceHub.Users
