import ComplianceHub.Lib.Run
import ComplianceHub.Users.Mfa

/-!
# MFA challenges are bounded and single-use

* `challenges` : the MFA transactions of one account, in any order, with time passing between them;
* `isNewLogin`, `acceptedCode`, `isWrongGuess`, … : what a transition of a run was;
* `challengeBudget`, `lockBudget` : the wrong guesses that are left, of a challenge and before the lock;
* `CodeOrigin` : a stored code comes from the latest issuance;
* `mfa_challenges_are_bounded`.
-/

namespace ComplianceHub.Users

open ComplianceHub.Lib

structure MfaState where
  user : User
  /-- The codes issued so far. -/
  codes : List Code
  clock : Int

inductive MfaEvent where
  /-- Time passes. -/
  | tick (now : Int)
  | updateMfaCode (code : Code) (expiresAt : Int) (resend : Bool)
  | consumeMfaChallenge (guess : Option Code)
  | unlockMfa (request : RecoveryRequest)

/-- The state after an event, none where it cannot happen: time goes forward, and each issuance has its own code. -/
def MfaState.next (hmac : MfaRecoveryState → String) (st : MfaState) : MfaEvent → Option MfaState
  | .tick now => if st.clock ≤ now then some { st with clock := now } else none
  | .updateMfaCode code expiresAt resend =>
    if code ∈ st.codes then none
    else
      match updateMfaCode st.user code expiresAt resend st.clock with
      | .ok user => some { st with user, codes := code :: st.codes }
      | .error _ => some st
  | .consumeMfaChallenge guess => some { st with user := (consumeMfaChallenge st.user guess st.clock).2 }
  | .unlockMfa request =>
    match unlockMfa hmac st.user request st.clock with
    | .ok (some user) => some { st with user }
    | _ => some st

/-- The transactions on an account since its creation, when it had no challenge. -/
def challenges (hmac : MfaRecoveryState → String) : System MfaState MfaEvent where
  init st := st.user.mfaCode = none
  step st event st' := st.next hmac event = some st'

/-! ## What a transition was -/

abbrev MfaTransition := Transition MfaState MfaEvent

/-- The code a transition issued, with its expiry. -/
def issuedCode (e : MfaTransition) : Option (Code × Int) :=
  match e.label with
  | .updateMfaCode code expiresAt resend =>
    (updateMfaCode e.before.user code expiresAt resend e.before.clock).toOption.map fun _ => (code, expiresAt)
  | _ => none

/-- A code was issued for a new login. -/
def isNewLogin (e : MfaTransition) : Bool :=
  match e.label with
  | .updateMfaCode _ _ resend => !resend && (issuedCode e).isSome
  | _ => false

/-- The code a guess was accepted with. -/
def acceptedCode (e : MfaTransition) : Option Code :=
  match e.label with
  | .consumeMfaChallenge guess =>
    if (consumeMfaChallenge e.before.user guess e.before.clock).1 = none then guess else none
  | _ => none

/-- A wrong guess was evaluated. -/
def isWrongGuess (e : MfaTransition) : Bool :=
  match e.label with
  | .consumeMfaChallenge guess => isEvaluated e.before.user e.before.clock && e.before.user.mfaCode ≠ guess
  | _ => false

/-- A wrong guess that used up the challenge. -/
def isExhausted (e : MfaTransition) : Bool := isWrongGuess e && e.after.user.mfaCode.isNone

/-- An administrator unlocked the account. -/
def isRecovery (hmac : MfaRecoveryState → String) (e : MfaTransition) : Bool :=
  match e.label with
  | .unlockMfa request => (unlockMfa hmac e.before.user request e.before.clock).toOption.any Option.isSome
  | _ => false

/-- Time passed the end of a lock. -/
def lockExpires (e : MfaTransition) : Bool :=
  match e.label with
  | .tick now => e.before.user.mfaLockedUntil.any fun lockedUntil => e.before.clock < lockedUntil && lockedUntil ≤ now
  | _ => false

/-- What an event does to the state. -/
inductive MfaStep (hmac : MfaRecoveryState → String) (st : MfaState) : MfaEvent → MfaState → Prop
  | ticks {now : Int} : st.clock ≤ now → MfaStep hmac st (.tick now) { st with clock := now }
  | issues {code : Code} {expiresAt : Int} {resend : Bool} : code ∉ st.codes → st.user.isLocked st.clock = false →
      (resend = true → st.user.mfaCode.isSome = true) →
      updateMfaCode st.user code expiresAt resend st.clock = .ok (issued st.user code expiresAt resend) →
      MfaStep hmac st (.updateMfaCode code expiresAt resend)
        { st with user := issued st.user code expiresAt resend, codes := code :: st.codes }
  | refusesCode {code : Code} {expiresAt : Int} {resend : Bool} {failure : MfaFailure} :
      updateMfaCode st.user code expiresAt resend st.clock = .error failure →
      MfaStep hmac st (.updateMfaCode code expiresAt resend) st
  | refusesGuess {guess : Option Code} : isEvaluated st.user st.clock = false →
      MfaStep hmac st (.consumeMfaChallenge guess) st
  | counts {guess : Option Code} : isEvaluated st.user st.clock = true → st.user.mfaCode ≠ guess →
      MfaStep hmac st (.consumeMfaChallenge guess) { st with user := failed st.user st.clock }
  | accepts {guess : Option Code} : isEvaluated st.user st.clock = true → st.user.mfaCode = guess →
      MfaStep hmac st (.consumeMfaChallenge guess) { st with user := verified st.user st.clock }
  | recovers {request : RecoveryRequest} : unlockMfa hmac st.user request st.clock = .ok (some (recovered st.user)) →
      MfaStep hmac st (.unlockMfa request) { st with user := recovered st.user }
  | leaves {request : RecoveryRequest} : (∀ user, unlockMfa hmac st.user request st.clock ≠ .ok (some user)) →
      MfaStep hmac st (.unlockMfa request) st

variable {hmac : MfaRecoveryState → String}

theorem acceptedCode_consumeMfaChallenge (st st' : MfaState) (guess : Option Code) :
    acceptedCode ⟨st, .consumeMfaChallenge guess, st'⟩ =
      if isEvaluated st.user st.clock = true ∧ st.user.mfaCode = guess then guess else none := by
  simp only [acceptedCode, consumeMfaChallenge_eq_none]

theorem mfaStep_of_next {st st' : MfaState} {event : MfaEvent} (h : st.next hmac event = some st') :
    MfaStep hmac st event st' := by
  cases event with
  | tick now =>
    simp only [MfaState.next] at h
    split_ifs at h with hnow
    cases h
    exact .ticks hnow
  | updateMfaCode code expiresAt resend =>
    simp only [MfaState.next] at h
    split_ifs at h with hcode
    cases hupdate : updateMfaCode st.user code expiresAt resend st.clock with
    | error failure =>
      rw [hupdate] at h
      cases h
      exact .refusesCode hupdate
    | ok user =>
      rw [hupdate] at h
      cases h
      obtain ⟨hlocked, hresend, rfl⟩ := updateMfaCode_eq_ok hupdate
      exact .issues hcode hlocked hresend hupdate
  | consumeMfaChallenge guess =>
    cases h
    rcases consumeMfaChallenge_cases st.user guess st.clock with ⟨hno, -, heq⟩ | ⟨hyes, hwrong, -, heq⟩ |
      ⟨hyes, hright, heq⟩
    · rw [heq]
      exact .refusesGuess hno
    · rw [heq]
      exact .counts hyes hwrong
    · rw [heq]
      exact .accepts hyes hright
  | unlockMfa request =>
    simp only [MfaState.next] at h
    split at h
    · rename_i user hunlock
      cases h
      obtain rfl := unlockMfa_eq_some hunlock
      exact .recovers hunlock
    · rename_i hno
      cases h
      exact .leaves hno

/-! ## Bounds -/

/-- The wrong guesses left to the present challenge. -/
def challengeBudget (st : MfaState) : Nat :=
  match st.user.mfaCode with
  | some _ => 3 - min 2 (countedChallengeAttempts st.user)
  | none => 0

/-- The wrong guesses left before the account is locked. -/
def lockBudget (st : MfaState) : Nat :=
  if st.user.isLocked st.clock then 0 else 9 - min 8 (countedAttempts st.user)

theorem isEvaluated_code {user : User} {now : Int} (h : isEvaluated user now = true) : ∃ code, user.mfaCode = some code := by
  obtain ⟨-, -, code, -, hcode, -⟩ := isEvaluated_iff.mp h
  exact ⟨code, hcode⟩

theorem isWrongGuess_counts {st st' : MfaState} {guess : Option Code} (heval : isEvaluated st.user st.clock = true)
    (hwrong : st.user.mfaCode ≠ guess) : isWrongGuess ⟨st, .consumeMfaChallenge guess, st'⟩ = true := by
  simp [isWrongGuess, heval, hwrong]

/-- A wrong guess uses up one of the challenge's guesses, and no event but a new login gives one back. -/
theorem MfaStep.challengeBudget {st st' : MfaState} {event : MfaEvent} (h : MfaStep hmac st event st')
    (hlogin : isNewLogin ⟨st, event, st'⟩ = false) :
    challengeBudget st' + (if isWrongGuess ⟨st, event, st'⟩ then 1 else 0) ≤ challengeBudget st := by
  cases h with
  | ticks | refusesCode | leaves => exact le_rfl
  | refusesGuess hno => simp [isWrongGuess, hno]
  | @issues code expiresAt resend _ _ hresend hupdate =>
    have hr : resend = true := by
      cases resend with
      | true => rfl
      | false => simp [isNewLogin, issuedCode, hupdate, Except.toOption] at hlogin
    subst hr
    obtain ⟨code', hcode'⟩ := Option.isSome_iff_exists.mp (hresend rfl)
    have hcounted : countedChallengeAttempts st.user ≤ countedChallengeAttempts (issued st.user code expiresAt true) := by
      simp only [countedChallengeAttempts, issued, Option.isSome_none, Bool.false_eq_true, if_true, if_false]
      split_ifs <;> omega
    rw [Users.challengeBudget, Users.challengeBudget, hcode']
    simp only [issued, isWrongGuess, Bool.false_eq_true, if_false] at hcounted ⊢
    omega
  | counts heval hwrong =>
    obtain ⟨code, hcode⟩ := isEvaluated_code heval
    rw [isWrongGuess_counts heval hwrong, if_pos rfl, Users.challengeBudget, Users.challengeBudget, hcode]
    cases hends : endsChallenge st.user st.clock with
    | true =>
      simp only [failed, hends, if_true]
      omega
    | false =>
      obtain ⟨hlock, hfew⟩ := endsChallenge_eq_false hends
      simp only [failed, hends, hcode, hlock, countedChallengeAttempts, Option.isSome_none, Bool.false_eq_true, if_false]
        at hfew ⊢
      omega
  | accepts heval hright => simp [Users.challengeBudget, verified, isWrongGuess, hright]
  | recovers => simp [Users.challengeBudget, recovered, isWrongGuess]

/-- A wrong guess brings the lock nearer, and only a success, a recovery or the end of a lock moves it away. -/
theorem MfaStep.lockBudget {st st' : MfaState} {event : MfaEvent} (h : MfaStep hmac st event st')
    (haccepted : acceptedCode ⟨st, event, st'⟩ = none) (hrecovery : isRecovery hmac ⟨st, event, st'⟩ = false)
    (hexpires : lockExpires ⟨st, event, st'⟩ = false) :
    lockBudget st' + (if isWrongGuess ⟨st, event, st'⟩ then 1 else 0) ≤ lockBudget st := by
  cases h with
  | refusesCode | leaves => exact le_rfl
  | refusesGuess hno => simp [isWrongGuess, hno]
  | @ticks now hnow =>
    have hlocked : st.user.isLocked st.clock = st.user.isLocked now := by
      cases hlock : st.user.mfaLockedUntil with
      | none => simp [User.isLocked, hlock]
      | some lockedUntil =>
        simp only [lockExpires, hlock, Option.any_some, Bool.and_eq_false_iff, decide_eq_false_iff_not] at hexpires
        simp only [User.isLocked, hlock, Option.any_some, decide_eq_decide]
        omega
    rw [Users.lockBudget, Users.lockBudget, hlocked]
    exact le_rfl
  | @issues code expiresAt resend _ hlocked hresend hupdate =>
    have hcounted : countedAttempts (issued st.user code expiresAt resend) = countedAttempts st.user := rfl
    rw [Users.lockBudget, Users.lockBudget, hlocked, hcounted]
    exact le_rfl
  | counts heval hwrong =>
    obtain ⟨-, hlocked, -⟩ := isEvaluated_iff.mp heval
    rw [isWrongGuess_counts heval hwrong, if_pos rfl, Users.lockBudget, Users.lockBudget, hlocked]
    by_cases hninth : 9 ≤ countedAttempts st.user + 1
    · have hlock : failedLock st.user st.clock = some (timestamp (st.clock + 15 * 60 * 1000)) := if_pos hninth
      have hlater : st.clock < timestamp (st.clock + 15 * 60 * 1000) := lt_timestamp (by omega)
      have hlocked' : (failed st.user st.clock).isLocked st.clock = true := by
        rw [User.isLocked, failed, hlock]
        exact decide_eq_true hlater
      rw [hlocked']
      simp only [Bool.false_eq_true, if_true, if_false]
      omega
    · have hlock : failedLock st.user st.clock = none := if_neg hninth
      have hlocked' : (failed st.user st.clock).isLocked st.clock = false := by
        rw [User.isLocked, failed, hlock]
        rfl
      have hcounted : countedAttempts (failed st.user st.clock) = countedAttempts st.user + 1 := by
        rw [countedAttempts, failed, hlock]
        rfl
      rw [hlocked', hcounted]
      simp only [Bool.false_eq_true, if_false]
      omega
  | accepts heval hright =>
    obtain ⟨code, hcode⟩ := isEvaluated_code heval
    subst hright
    simp [acceptedCode_consumeMfaChallenge, heval, hcode] at haccepted
  | recovers hunlock => simp [isRecovery, hunlock, Except.toOption] at hrecovery

theorem challengeBudget_le (st : MfaState) : challengeBudget st ≤ 3 := by
  unfold challengeBudget
  split <;> omega

theorem lockBudget_le (st : MfaState) : lockBudget st ≤ 9 := by
  unfold lockBudget
  split_ifs <;> omega

/-! ## Where a stored code comes from -/

/-- A transition that leaves the stored code as it was. -/
def keepsCode (hmac : MfaRecoveryState → String) (e : MfaTransition) : Prop :=
  issuedCode e = none ∧ acceptedCode e = none ∧ isExhausted e = false ∧ isRecovery hmac e = false

/-- The code was issued last, to expire at `expiresAt`, and since then neither accepted, exhausted nor recovered. -/
def CodeOrigin (hmac : MfaRecoveryState → String) (history : List MfaTransition) (code : Code) (expiresAt : Int) : Prop :=
  ∃ first e rest expiry, history = first ++ e :: rest ∧ issuedCode e = some (code, expiry) ∧
    expiresAt = timestamp expiry ∧ ∀ e' ∈ rest, keepsCode hmac e'

theorem CodeOrigin.append {history : List MfaTransition} {code : Code} {expiresAt : Int} {e : MfaTransition}
    (h : CodeOrigin hmac history code expiresAt) (he : keepsCode hmac e) :
    CodeOrigin hmac (history ++ [e]) code expiresAt := by
  obtain ⟨first, issue, rest, expiry, rfl, hissued, hexpiry, hrest⟩ := h
  refine ⟨first, issue, rest ++ [e], expiry, by simp, hissued, hexpiry, fun e' he' => ?_⟩
  rcases List.mem_append.mp he' with he' | he'
  · exact hrest e' he'
  · rw [List.mem_singleton] at he'
    rw [he']
    exact he

theorem codeOrigin_of_issuedCode (history : List MfaTransition) {e : MfaTransition} {code : Code} {expiry : Int}
    (h : issuedCode e = some (code, expiry)) : CodeOrigin hmac (history ++ [e]) code (timestamp expiry) :=
  ⟨history, e, [], expiry, rfl, h, rfl, by simp⟩

/-- A step that leaves a code stored either issued it or left it as it was. -/
theorem MfaStep.code {st st' : MfaState} {event : MfaEvent} (h : MfaStep hmac st event st') {code : Code}
    (hcode : st'.user.mfaCode = some code) :
    (∃ expiry, issuedCode ⟨st, event, st'⟩ = some (code, expiry) ∧ code ∉ st.codes ∧
        st'.user.mfaExpiresAt = some (timestamp expiry)) ∨
      (keepsCode hmac ⟨st, event, st'⟩ ∧ st.user.mfaCode = some code ∧
        st'.user.mfaExpiresAt = st.user.mfaExpiresAt) := by
  cases h with
  | ticks => exact .inr ⟨⟨rfl, rfl, rfl, rfl⟩, hcode, rfl⟩
  | @issues code' expiresAt resend hnew _ _ hupdate =>
    obtain rfl : code' = code := Option.some.inj hcode
    exact .inl ⟨expiresAt, by simp [issuedCode, hupdate, Except.toOption], hnew, rfl⟩
  | refusesCode hupdate => exact .inr ⟨⟨by simp [issuedCode, hupdate, Except.toOption], rfl, rfl, rfl⟩, hcode, rfl⟩
  | refusesGuess hno =>
    exact .inr ⟨⟨rfl, by simp [acceptedCode_consumeMfaChallenge, hno], by simp [isExhausted, isWrongGuess, hno], rfl⟩, hcode, rfl⟩
  | counts _ hwrong =>
    have hends : endsChallenge st.user st.clock = false := by
      by_contra hends
      rw [Bool.not_eq_false] at hends
      simp [failed, hends] at hcode
    have hkept : st.user.mfaCode = some code := by simpa [failed, hends] using hcode
    have hnone : (failed st.user st.clock).mfaCode.isNone = false := by
      rw [hcode]
      rfl
    exact .inr ⟨⟨rfl, by simp [acceptedCode_consumeMfaChallenge, hwrong], by simp [isExhausted, hnone], rfl⟩, hkept, by simp [failed, hends]⟩
  | accepts => simp [verified] at hcode
  | recovers => simp [recovered] at hcode
  | leaves hno =>
    refine .inr ⟨⟨rfl, rfl, rfl, ?_⟩, hcode, rfl⟩
    rename_i request
    simp only [isRecovery]
    cases hunlock : unlockMfa hmac st.user request st.clock with
    | error _ => rfl
    | ok user =>
      cases user with
      | none => rfl
      | some user => exact absurd hunlock (hno user)

/-- The codes issued grow by the code of each issuance. -/
theorem MfaStep.mem_codes {st st' : MfaState} {event : MfaEvent} (h : MfaStep hmac st event st') :
    (∀ code ∈ st.codes, code ∈ st'.codes) ∧
      ∀ code expiry, issuedCode ⟨st, event, st'⟩ = some (code, expiry) → code ∈ st'.codes := by
  cases h with
  | @issues code' expiresAt resend _ _ _ hupdate =>
    refine ⟨fun code hcode => List.mem_cons_of_mem _ hcode, fun code expiry hissued => ?_⟩
    simp only [issuedCode, hupdate, Except.toOption, Option.map_some, Option.some.injEq, Prod.mk.injEq] at hissued
    rw [hissued.1]
    exact List.mem_cons_self
  | refusesCode hupdate => exact ⟨fun _ hcode => hcode, by simp [issuedCode, hupdate, Except.toOption]⟩
  | _ => exact ⟨fun _ hcode => hcode, by simp [issuedCode]⟩

/-- A stored code comes from the latest issuance, and is one of the codes issued. -/
theorem codeOrigin {history : List MfaTransition} {st : MfaState} (h : Run (challenges hmac) history st) :
    ∀ code, st.user.mfaCode = some code →
      code ∈ st.codes ∧ ∃ expiresAt, st.user.mfaExpiresAt = some expiresAt ∧ CodeOrigin hmac history code expiresAt := by
  refine Run.invariant (P := fun _ => True) (I := fun history st => ∀ code, st.user.mfaCode = some code →
    code ∈ st.codes ∧ ∃ expiresAt, st.user.mfaExpiresAt = some expiresAt ∧ CodeOrigin hmac history code expiresAt)
    ?_ ?_ h (fun _ _ => trivial)
  · intro st hinit code hcode
    rw [show st.user.mfaCode = none from hinit] at hcode
    cases hcode
  · intro history st event st' _ ih hs _ code hcode
    have hstep := mfaStep_of_next hs
    rcases hstep.code hcode with ⟨expiry, hissued, -, hexpires⟩ | ⟨hkeeps, hbefore, hexpires⟩
    · refine ⟨hstep.mem_codes.2 _ _ hissued, _, hexpires, codeOrigin_of_issuedCode history hissued⟩
    · obtain ⟨hmem, expiresAt, hexpiresAt, horigin⟩ := ih code hbefore
      exact ⟨hstep.mem_codes.1 _ hmem, expiresAt, hexpires.trans hexpiresAt, horigin.append hkeeps⟩

/-! ## The bounds over a run -/

theorem acceptedCode_eq_some {e : MfaTransition} {code : Code} (h : acceptedCode e = some code) :
    e.label = .consumeMfaChallenge (some code) ∧ e.before.user.isLocked e.before.clock = false ∧
      e.before.user.mfaCode = some code ∧
      ∃ expiresAt, e.before.user.mfaExpiresAt = some expiresAt ∧ e.before.clock ≤ expiresAt := by
  obtain ⟨st, event, st'⟩ := e
  cases event with
  | consumeMfaChallenge guess =>
    rw [acceptedCode_consumeMfaChallenge] at h
    split_ifs at h with hright
    subst h
    obtain ⟨-, hlocked, _, expiresAt, -, hexpiresAt, hnow⟩ := isEvaluated_iff.mp hright.1
    exact ⟨rfl, hlocked, hright.2, expiresAt, hexpiresAt, hnow⟩
  | _ => cases h

/-- Nothing happens to the codes of a locked account. -/
theorem locked_keeps_out {e : MfaTransition} (h : e.before.user.isLocked e.before.clock = true) :
    acceptedCode e = none ∧ issuedCode e = none := by
  constructor
  · by_contra hsome
    obtain ⟨code, hcode⟩ := Option.ne_none_iff_exists'.mp hsome
    obtain ⟨-, hlocked, -⟩ := acceptedCode_eq_some hcode
    rw [h] at hlocked
    cases hlocked
  · obtain ⟨st, event, st'⟩ := e
    cases event with
    | updateMfaCode code expiresAt resend =>
      cases hupdate : updateMfaCode st.user code expiresAt resend st.clock with
      | error failure => simp [issuedCode, hupdate, Except.toOption]
      | ok user =>
        obtain ⟨hlocked, -⟩ := updateMfaCode_eq_ok hupdate
        rw [h] at hlocked
        cases hlocked
    | _ => rfl

/-- A code that was issued, and is stored no more, is never stored again. -/
theorem MfaStep.retired {st st' : MfaState} {event : MfaEvent} (h : MfaStep hmac st event st') {code : Code}
    (hissued : code ∈ st.codes) (hretired : st.user.mfaCode ≠ some code) :
    code ∈ st'.codes ∧ st'.user.mfaCode ≠ some code := by
  refine ⟨h.mem_codes.1 code hissued, fun hcode => ?_⟩
  rcases h.code hcode with ⟨-, -, hnew, -⟩ | ⟨-, hbefore, -⟩
  · exact hnew hissued
  · exact hretired hbefore

theorem accepted_once {st st' end' : MfaState} {event : MfaEvent} {rest : List MfaTransition} {code : Code}
    (hissued : code ∈ st.codes) (hstep : (challenges hmac).step st event st')
    (haccepted : acceptedCode ⟨st, event, st'⟩ = some code) (hrest : Segment (challenges hmac) st' rest end') :
    ∀ e ∈ rest, acceptedCode e ≠ some code := by
  have hafter : code ∈ st'.codes ∧ st'.user.mfaCode ≠ some code := by
    obtain ⟨hlabel, -, hcode, -⟩ := acceptedCode_eq_some haccepted
    have hs := mfaStep_of_next hstep
    refine ⟨hs.mem_codes.1 code hissued, fun hcode' => ?_⟩
    rcases hs.code hcode' with ⟨-, -, hnew, -⟩ | ⟨⟨-, hno, -⟩, -⟩
    · exact hnew hissued
    · rw [hno] at haccepted
      cases haccepted
  obtain ⟨-, hbefore⟩ := hrest.always (P := fun _ => True)
    (I := fun st => code ∈ st.codes ∧ st.user.mfaCode ≠ some code)
    (fun a l b hI hs _ => (mfaStep_of_next hs).retired hI.1 hI.2) hafter (fun _ _ => trivial)
  intro e he haccepted'
  obtain ⟨-, -, hcode, -⟩ := acceptedCode_eq_some haccepted'
  exact (hbefore e he).1.2 hcode

/-- **MFA challenges are bounded and single-use**: three wrong guesses between new logins, nine between successes,
recoveries and ends of locks; a locked account is left alone; a code is accepted once, in time, and only while it is
the latest one issued. -/
theorem mfa_challenges_are_bounded {history : List MfaTransition} {st : MfaState}
    (h : Run (challenges hmac) history st) :
    (∀ first steps rest, history = first ++ steps ++ rest → (∀ e ∈ steps, isNewLogin e = false) →
        steps.countP isWrongGuess ≤ 3) ∧
      (∀ first steps rest, history = first ++ steps ++ rest →
        (∀ e ∈ steps, acceptedCode e = none ∧ isRecovery hmac e = false ∧ lockExpires e = false) →
        steps.countP isWrongGuess ≤ 9) ∧
      (∀ e ∈ history, e.before.user.isLocked e.before.clock = true → acceptedCode e = none ∧ issuedCode e = none) ∧
      ∀ first e rest code, history = first ++ e :: rest → acceptedCode e = some code →
        (∃ expiresAt, e.before.clock ≤ expiresAt ∧ CodeOrigin hmac first code expiresAt) ∧
          ∀ e' ∈ rest, acceptedCode e' ≠ some code := by
  refine ⟨?_, ?_, fun e _ => locked_keeps_out, ?_⟩
  · rintro first steps rest rfl hno
    obtain ⟨a, b, -, hsteps⟩ := h.segment
    refine le_trans (hsteps.countP_le (fun a l b hs hp => ?_) hno) (challengeBudget_le a)
    exact (mfaStep_of_next hs).challengeBudget hp
  · rintro first steps rest rfl hno
    obtain ⟨a, b, -, hsteps⟩ := h.segment
    refine le_trans (hsteps.countP_le (fun a l b hs hp => ?_) hno) (lockBudget_le a)
    exact (mfaStep_of_next hs).lockBudget hp.1 hp.2.1 hp.2.2
  · rintro first ⟨a, event, b⟩ rest code rfl haccepted
    obtain ⟨a', hfirst, hsegment⟩ := h.split rfl
    cases hsegment with
    | cons hs hrest =>
      obtain ⟨-, -, hcode, expiresAt, hexpiresAt, hnow⟩ := acceptedCode_eq_some haccepted
      obtain ⟨hissued, expiresAt', hexpiresAt', horigin⟩ := codeOrigin hfirst code hcode
      obtain rfl : expiresAt = expiresAt' := Option.some.inj (hexpiresAt.symm.trans hexpiresAt')
      exact ⟨⟨expiresAt, hnow, horigin⟩, accepted_once hissued hs haccepted hrest⟩

def challenged : User := { id := 1, email := "a@b.c" }

/-- A login, a wrong guess and the right one. -/
theorem mfa_challenges_are_bounded_login : ∃ history st, Run (challenges fun _ => "") history st ∧
    history.countP isWrongGuess = 1 ∧ history.filterMap acceptedCode = [7] ∧
    (∀ first steps rest, history = first ++ steps ++ rest → (∀ e ∈ steps, isNewLogin e = false) →
        steps.countP isWrongGuess ≤ 3) ∧
      (∀ first steps rest, history = first ++ steps ++ rest →
        (∀ e ∈ steps, acceptedCode e = none ∧ isRecovery (fun _ => "") e = false ∧ lockExpires e = false) →
        steps.countP isWrongGuess ≤ 9) ∧
      (∀ e ∈ history, e.before.user.isLocked e.before.clock = true → acceptedCode e = none ∧ issuedCode e = none) ∧
      ∀ first e rest code, history = first ++ e :: rest → acceptedCode e = some code →
        (∃ expiresAt, e.before.clock ≤ expiresAt ∧ CodeOrigin (fun _ => "") first code expiresAt) ∧
          ∀ e' ∈ rest, acceptedCode e' ≠ some code := by
  have hstart : Run (challenges fun _ => "") [] ⟨challenged, [], 0⟩ := .init rfl
  have hissued := hstart.step (show MfaState.next _ _ (.updateMfaCode 7 MFA_CODE_TTL_MS false) = some _ from rfl)
  have hwrong := hissued.step (show MfaState.next _ _ (.consumeMfaChallenge (some 8)) = some _ from rfl)
  have hrun := hwrong.step (show MfaState.next _ _ (.consumeMfaChallenge (some 7)) = some _ from rfl)
  exact ⟨_, _, hrun, by decide +kernel, by decide +kernel, mfa_challenges_are_bounded hrun⟩

end ComplianceHub.Users
