import ComplianceHub.Lib.Calls
import ComplianceHub.Users.Mfa
import Mathlib.Data.Fintype.Basic

/-!
# Verification and recovery

* `MfaCall`, `mfaStep` : `verifyMfaCode` in its steps, and the transactions of `updateMfaCode` and `unlockMfa`, of any
  number of calls on one account;
* `VerifyStep` : what a step does;
* `RecoveryRevokes` : what a recovery is for;
* `recovery_does_not_reach_a_late_read` : it fails for a call that reads its account late;
* `recovery_revokes_earlier_verification` : it holds where no call does, and no second has two verifications.

What `verifyMfaCode` asks of other services can only stop it, and a call may stop at any step.
-/

namespace ComplianceHub.Auth

open ComplianceHub.Lib ComplianceHub.Users

/-- The account, and its trusted devices. -/
structure MfaAccount where
  user : User
  devices : List UserTrustedDevice
  clock : Int
  /-- The recoveries that have committed. -/
  recoveries : Nat

/-- What a call has done so far. -/
inductive MfaCall where
  /-- `verifyMfaCode`, before its code is consumed. -/
  | verifyMfaCode (code : Option Code) (rememberDevice : Bool) (incomingDeviceToken : Option String)
  /-- Its own code was consumed after so many recoveries. -/
  | consumed (recoveries : Nat) (rememberDevice : Bool) (incomingDeviceToken : Option String)
  /-- It has read the account, and goes on to register the device. -/
  | found (recoveries : Nat) (mfaLastVerifiedAt : Option Int) (deviceToken : String)
  | verified (deviceToken : Option String)
  | updateMfaCode (code : Code) (expiresAt : Int) (resend : Bool)
  | updated
  | unlockMfa (request : RecoveryRequest)
  | unlocked (changed : Bool)
  | refused (failure : MfaFailure)
  | raised (e : HttpException)

/-- The clock at a step, and the id that `crypto.randomUUID` gives it. -/
structure Moment where
  now : Int
  uuid : String := ""
deriving DecidableEq, Repr

/-- `incomingDeviceToken || crypto.randomUUID()`. -/
def deviceTokenOf (incomingDeviceToken : Option String) (uuid : String) : String :=
  (incomingDeviceToken.filter fun token => token ≠ "").getD uuid

def mfaStepNow (hmac : MfaRecoveryState → String) (s : MfaAccount) (call : MfaCall) (uuid : String) :
    Option (MfaAccount × MfaCall) :=
  match call with
  | .verifyMfaCode code rememberDevice incomingDeviceToken =>
    match consumeMfaChallenge s.user code s.clock with
    | (some failure, user) => some ({ s with user }, .refused failure)
    | (none, user) => some ({ s with user }, .consumed s.recoveries rememberDevice incomingDeviceToken)
  | .consumed recoveries rememberDevice incomingDeviceToken =>
    if s.user.active = false then some (s, .raised (.unauthorized "Account is unavailable."))
    else if rememberDevice then
      some (s, .found recoveries s.user.mfaLastVerifiedAt (deviceTokenOf incomingDeviceToken uuid))
    else some (s, .verified none)
  | .found _ verifiedAt deviceToken =>
    match addTrustedDevice s.user s.devices deviceToken verifiedAt s.clock with
    | .ok devices => some ({ s with devices }, .verified (some deviceToken))
    | .error e => some (s, .raised e)
  | .updateMfaCode code expiresAt resend =>
    match updateMfaCode s.user code expiresAt resend s.clock with
    | .ok user => some ({ s with user }, .updated)
    | .error failure => some (s, .refused failure)
  | .unlockMfa request =>
    match unlockMfa hmac s.user request s.clock with
    | .ok (some user) => some ({ s with user, devices := [], recoveries := s.recoveries + 1 }, .unlocked true)
    | .ok none => some (s, .unlocked false)
    | .error e => some (s, .raised e)
  | .verified _ | .updated | .unlocked _ | .refused _ | .raised _ => none

/-- Time does not go back. -/
def mfaStep (hmac : MfaRecoveryState → String) (s : MfaAccount) (call : MfaCall) (moment : Moment) :
    Option (MfaAccount × MfaCall) :=
  if moment.now < s.clock then none else mfaStepNow hmac { s with clock := moment.now } call moment.uuid

/-- A call that has not begun. -/
def MfaCall.isStart : MfaCall → Prop
  | .verifyMfaCode _ _ _ | .updateMfaCode _ _ _ | .unlockMfa _ => True
  | _ => False

/-- The calls on an account, with whatever devices it trusts by then. -/
def mfaCalls (hmac : MfaRecoveryState → String) : Calls MfaAccount MfaCall Moment where
  init _ := True
  start := MfaCall.isStart
  step := mfaStep hmac

/-! ## What a step does -/

/-- The recoveries that had committed when the call's own code was consumed. -/
def MfaCall.recoveries : MfaCall → Option Nat
  | .consumed recoveries _ _ | .found recoveries _ _ => some recoveries
  | _ => none

/-- The call has ended without a device or a recovery. -/
def MfaCall.isQuiet : MfaCall → Bool
  | .verified none | .updated | .unlocked false | .refused _ | .raised _ => true
  | _ => false

/-- What a call can do to an account, whose clock is set. -/
inductive VerifyStep (s : MfaAccount) : MfaCall → MfaAccount → MfaCall → Prop
  | keeps {call call' : MfaCall} {user : User} : user.mfaLastVerifiedAt = s.user.mfaLastVerifiedAt →
      call'.isQuiet = true → VerifyStep s call { s with user } call'
  | consumes {code : Option Code} {rememberDevice : Bool} {incomingDeviceToken : Option String} :
      (consumeMfaChallenge s.user code s.clock).1 = none →
      VerifyStep s (.verifyMfaCode code rememberDevice incomingDeviceToken)
        { s with user := Users.verified s.user s.clock } (.consumed s.recoveries rememberDevice incomingDeviceToken)
  | reads {recoveries : Nat} {incomingDeviceToken : Option String} {deviceToken : String} :
      VerifyStep s (.consumed recoveries true incomingDeviceToken) s
        (.found recoveries s.user.mfaLastVerifiedAt deviceToken)
  | registers {recoveries : Nat} {verifiedAt : Int} {deviceToken : String} :
      s.user.mfaLastVerifiedAt = some verifiedAt →
      VerifyStep s (.found recoveries (some verifiedAt) deviceToken)
        { s with
          devices := registered s.devices
            { deviceToken, expiresAt := timestamp (s.clock + 7 * 24 * 60 * 60 * 1000) } }
        (.verified (some deviceToken))
  | recovers {request : RecoveryRequest} :
      VerifyStep s (.unlockMfa request)
        { s with user := recovered s.user, devices := [], recoveries := s.recoveries + 1 } (.unlocked true)

theorem VerifyStep.idle {s : MfaAccount} {call call' : MfaCall} (h : call'.isQuiet = true) :
    VerifyStep s call s call' := @VerifyStep.keeps s call call' s.user rfl h

variable {hmac : MfaRecoveryState → String}

theorem updateMfaCode_keeps {user user' : User} {code : Code} {expiresAt : Int} {resend : Bool} {now : Int}
    (h : updateMfaCode user code expiresAt resend now = .ok user') :
    user'.mfaLastVerifiedAt = user.mfaLastVerifiedAt := by
  obtain ⟨-, -, rfl⟩ := updateMfaCode_eq_ok h
  rfl

theorem consumeMfaChallenge_keeps {user : User} {code : Option Code} {now : Int} {failure : MfaFailure}
    (h : (consumeMfaChallenge user code now).1 = some failure) :
    (consumeMfaChallenge user code now).2.mfaLastVerifiedAt = user.mfaLastVerifiedAt := by
  rcases consumeMfaChallenge_cases user code now with ⟨-, -, heq⟩ | ⟨-, -, -, heq⟩ | ⟨-, -, heq⟩
  · rw [heq]
  · rw [heq]
    rfl
  · rw [heq] at h
    cases h

theorem addTrustedDevice_eq_ok {user : User} {devices devices' : List UserTrustedDevice} {deviceToken : String}
    {verifiedAt : Option Int} {now : Int} (h : addTrustedDevice user devices deviceToken verifiedAt now = .ok devices') :
    (∃ time, verifiedAt = some time ∧ user.mfaLastVerifiedAt = some time) ∧
      devices' = registered devices { deviceToken, expiresAt := timestamp (now + 7 * 24 * 60 * 60 * 1000) } := by
  simp only [addTrustedDevice, bind_eq_ok, check_eq_ok] at h
  obtain ⟨-, hcurrent, h⟩ := h
  cases h
  simp only [isCurrentVerification, Bool.and_eq_true, decide_eq_true_eq] at hcurrent
  obtain ⟨time, htime⟩ := Option.isSome_iff_exists.mp hcurrent.1.1.1.2
  exact ⟨⟨time, htime, hcurrent.1.1.2.trans htime⟩, rfl⟩

theorem verifyStep_of_mfaStepNow {s : MfaAccount} {call : MfaCall} {uuid : String} {r : MfaAccount × MfaCall}
    (h : mfaStepNow hmac s call uuid = some r) : VerifyStep s call r.1 r.2 := by
  cases call with
  | verifyMfaCode code rememberDevice incomingDeviceToken =>
    simp only [mfaStepNow] at h
    split at h
    · rename_i failure user hconsume
      cases h
      refine .keeps ?_ rfl
      rw [show user = (consumeMfaChallenge s.user code s.clock).2 by rw [hconsume]]
      exact consumeMfaChallenge_keeps (congrArg Prod.fst hconsume)
    · rename_i user hconsume
      cases h
      have hnone : (consumeMfaChallenge s.user code s.clock).1 = none := congrArg Prod.fst hconsume
      have huser : user = Users.verified s.user s.clock := by
        rcases consumeMfaChallenge_cases s.user code s.clock with ⟨-, hno, -⟩ | ⟨-, -, hno, -⟩ | ⟨-, -, heq⟩
        · exact absurd hnone hno
        · exact absurd hnone hno
        · rw [hconsume] at heq
          exact congrArg Prod.snd heq
      subst huser
      exact .consumes hnone
  | consumed recoveries rememberDevice incomingDeviceToken =>
    simp only [mfaStepNow] at h
    split_ifs at h with hactive hremember
    · cases h
      exact .idle rfl
    · cases h
      subst hremember
      exact .reads
    · cases h
      exact .idle rfl
  | found recoveries verifiedAt deviceToken =>
    simp only [mfaStepNow] at h
    split at h
    · rename_i devices hadd
      cases h
      obtain ⟨⟨time, rfl, htime⟩, rfl⟩ := addTrustedDevice_eq_ok hadd
      exact .registers htime
    · cases h
      exact .idle rfl
  | updateMfaCode code expiresAt resend =>
    simp only [mfaStepNow] at h
    split at h
    · rename_i user hupdate
      cases h
      exact .keeps (updateMfaCode_keeps hupdate) rfl
    · cases h
      exact .idle rfl
  | unlockMfa request =>
    simp only [mfaStepNow] at h
    split at h
    · rename_i user hunlock
      cases h
      obtain rfl := unlockMfa_eq_some hunlock
      exact .recovers
    · cases h
      exact .idle rfl
    · cases h
      exact .idle rfl
  | _ => cases h

/-! ## What a transition was -/

section
variable {ι : Type}

abbrev VerifyTransition (ι : Type) := Transition (Pool ι MfaAccount MfaCall) (ι × Moment)

/-- A call has consumed its own code. -/
def consumes (e : VerifyTransition ι) : Bool :=
  match e.before.call e.label.1, e.after.call e.label.1 with
  | .verifyMfaCode _ _ _, .consumed _ _ _ => true
  | _, _ => false

/-- An `unlockMfa` that reports a change has committed. -/
def isRecovery (e : VerifyTransition ι) : Bool :=
  match e.before.call e.label.1, e.after.call e.label.1 with
  | .unlockMfa _, .unlocked true => true
  | _, _ => false

/-- The device a call has added or extended. -/
def registeredDevice (e : VerifyTransition ι) : Option UserTrustedDevice :=
  match e.before.call e.label.1, e.after.call e.label.1 with
  | .found _ _ deviceToken, .verified (some _) =>
    some { deviceToken, expiresAt := timestamp (e.label.2.now + 7 * 24 * 60 * 60 * 1000) }
  | _, _ => none

/-- After each recovery no call registers a device whose own code was consumed before, and every device was registered
since. -/
def RecoveryRevokes (history : List (VerifyTransition ι)) (p : Pool ι MfaAccount MfaCall) : Prop :=
  ∀ first e rest, history = first ++ e :: rest → isRecovery e = true →
    (∀ c ∈ first, consumes c = true → ∀ r ∈ rest, r.label.1 = c.label.1 → registeredDevice r = none) ∧
      ∀ device ∈ p.shared.devices, ∃ r ∈ rest, registeredDevice r = some device

/-- The proof of a verification that a call holds since a recovery ago. -/
def staleProof (s : MfaAccount) : MfaCall → Option Int
  | .found recoveries verifiedAt _ => if recoveries < s.recoveries then verifiedAt else none
  | _ => none

/-- No call reads the proof of another verification after a recovery, and no code is accepted in a second whose proof
is held since before a recovery. -/
def verifiesApart (e : VerifyTransition ι) : Prop :=
  match e.before.call e.label.1 with
  | .verifyMfaCode code _ _ => (consumeMfaChallenge e.before.shared.user code e.label.2.now).1 = none →
      ∀ i, staleProof e.before.shared (e.before.call i) ≠ some (timestamp e.label.2.now)
  | .consumed recoveries true _ =>
    recoveries < e.before.shared.recoveries → e.before.shared.user.mfaLastVerifiedAt = none
  | _ => True

instance [Fintype ι] (e : VerifyTransition ι) : Decidable (verifiesApart e) := by
  unfold verifiesApart
  split <;> infer_instance

/-! ## Devices since a recovery -/

variable [DecidableEq ι]

theorem verifyStep_of_step {p p' : Pool ι MfaAccount MfaCall} {i : ι} {moment : Moment}
    (h : ((mfaCalls hmac).interleaved ι).step p (i, moment) p') :
    VerifyStep { p.shared with clock := moment.now } (p.call i) p'.shared (p'.call i) ∧
      ∀ j, j ≠ i → p'.call j = p.call j := by
  obtain ⟨r, hr, rfl⟩ := h
  have hr : mfaStep hmac p.shared (p.call i) moment = some r := hr
  rw [mfaStep] at hr
  split_ifs at hr
  refine ⟨?_, fun j hj => Pool.after_call_of_ne p r hj⟩
  rw [Pool.after_call]
  exact verifyStep_of_mfaStepNow hr

theorem mem_registered {devices : List UserTrustedDevice} {device known : UserTrustedDevice}
    (h : known ∈ registered devices device) : known = device ∨ known ∈ devices := by
  unfold registered at h
  split_ifs at h
  · obtain ⟨old, hold, rfl⟩ := List.mem_map.mp h
    split_ifs
    · exact .inl rfl
    · exact .inr hold
  · rcases List.mem_append.mp h with h | h
    · exact .inr h
    · exact .inl (List.mem_singleton.mp h)

/-- A step keeps a device, registers it, or forgets them all. -/
theorem mem_devices_of_step {p p' : Pool ι MfaAccount MfaCall} {i : ι} {moment : Moment}
    (h : ((mfaCalls hmac).interleaved ι).step p (i, moment) p') {device : UserTrustedDevice}
    (hdevice : device ∈ p'.shared.devices) :
    isRecovery ⟨p, (i, moment), p'⟩ = false ∧
      (device ∈ p.shared.devices ∨ registeredDevice ⟨p, (i, moment), p'⟩ = some device) := by
  obtain ⟨hstep, -⟩ := verifyStep_of_step h
  simp only [isRecovery, registeredDevice]
  generalize p.call i = call at hstep ⊢
  generalize p'.call i = call' at hstep ⊢
  generalize p'.shared = s' at hstep hdevice
  cases hstep with
  | keeps hproof hquiet =>
    refine ⟨?_, .inl hdevice⟩
    split
    · cases hquiet
    · rfl
  | consumes | reads => exact ⟨rfl, .inl hdevice⟩
  | registers =>
    refine ⟨rfl, ?_⟩
    rcases mem_registered hdevice with rfl | hdevice
    · exact .inr rfl
    · exact .inl hdevice
  | recovers => cases hdevice

/-- Every device was registered since the latest recovery. -/
theorem devices_registered_since {history : List (VerifyTransition ι)} {p : Pool ι MfaAccount MfaCall}
    (h : Run ((mfaCalls hmac).interleaved ι) history p) :
    ∀ device ∈ p.shared.devices, ∀ first e rest, history = first ++ e :: rest → isRecovery e = true →
      ∃ r ∈ rest, registeredDevice r = some device := by
  refine Run.invariant (P := fun _ => True) (I := fun history p => ∀ device ∈ p.shared.devices, ∀ first e rest,
    history = first ++ e :: rest → isRecovery e = true → ∃ r ∈ rest, registeredDevice r = some device) ?_ ?_ h
    (fun _ _ => trivial)
  · intro p _ device _ first e rest heq
    exact absurd heq.symm (by simp)
  · rintro history p ⟨i, moment⟩ p' _ ih hs _ device hdevice first e rest heq hrecovery
    obtain ⟨hno, hmem⟩ := mem_devices_of_step hs hdevice
    rcases List.eq_nil_or_concat rest with rfl | ⟨rest, last, rfl⟩
    · obtain ⟨-, he⟩ := List.append_inj' heq rfl
      rw [← List.singleton_injective he, hno] at hrecovery
      cases hrecovery
    · rw [List.concat_eq_append, ← List.cons_append, ← List.append_assoc] at heq
      obtain ⟨hhistory, hlast⟩ := List.append_inj' heq rfl
      obtain rfl := List.singleton_injective hlast
      rw [List.concat_eq_append]
      rcases hmem with hmem | hregistered
      · obtain ⟨r, hr, hregistered⟩ := ih device hmem first e rest hhistory hrecovery
        exact ⟨r, List.mem_append_left _ hr, hregistered⟩
      · exact ⟨_, List.mem_append_right _ (List.mem_singleton_self _), hregistered⟩

/-! ## Calls from before a recovery -/

/-- What holds of a call: it was verified no later than now, and a proof from before a recovery is not the stored one. -/
structure MfaCall.Holds (s : MfaAccount) (call : MfaCall) : Prop where
  bounded : ∀ recoveries, call.recoveries = some recoveries → recoveries ≤ s.recoveries
  stale : ∀ verifiedAt, staleProof s call = some verifiedAt → s.user.mfaLastVerifiedAt ≠ some verifiedAt

theorem MfaCall.recoveries_of_isQuiet {call : MfaCall} (h : call.isQuiet = true) : call.recoveries = none := by
  cases call <;> first | rfl | cases h

theorem MfaCall.holds_of_recoveries_eq_none {call : MfaCall} (s : MfaAccount) (h : call.recoveries = none) :
    call.Holds s where
  bounded recoveries hsome := by
    rw [h] at hsome
    cases hsome
  stale verifiedAt hsome := by
    cases call with
    | found => cases h
    | _ => cases hsome

/-- A step keeps what holds of the call that takes it. -/
theorem VerifyStep.own {s s' : MfaAccount} {call call' : MfaCall} (h : VerifyStep s call s' call') (hcall : call.Holds s)
    (hread : ∀ recoveries token, call = .consumed recoveries true token → recoveries < s.recoveries →
      s.user.mfaLastVerifiedAt = none) : call'.Holds s' := by
  cases h with
  | keeps _ hquiet => exact MfaCall.holds_of_recoveries_eq_none _ (MfaCall.recoveries_of_isQuiet hquiet)
  | registers | recovers => exact MfaCall.holds_of_recoveries_eq_none _ rfl
  | consumes =>
    refine ⟨fun recoveries hrecoveries => ?_, fun _ hstale => by cases hstale⟩
    exact (Option.some.inj hrecoveries).ge
  | reads =>
    refine ⟨hcall.bounded, fun verifiedAt hstale => ?_⟩
    simp only [staleProof] at hstale
    split_ifs at hstale with hlate
    rw [hread _ _ rfl hlate] at hstale
    cases hstale

/-- A step keeps what holds of another call. -/
theorem VerifyStep.other {s s' : MfaAccount} {call call' other : MfaCall} (h : VerifyStep s call s' call')
    (hother : other.Holds s)
    (hverify : ∀ code remember token, call = .verifyMfaCode code remember token →
      (consumeMfaChallenge s.user code s.clock).1 = none → staleProof s other ≠ some (timestamp s.clock)) :
    other.Holds s' := by
  have hframe : ∀ s' : MfaAccount, s'.recoveries = s.recoveries →
      s'.user.mfaLastVerifiedAt = s.user.mfaLastVerifiedAt → other.Holds s' := by
    intro s' hrecoveries hproof
    refine ⟨fun recoveries hsome => ?_, fun verifiedAt hstale => ?_⟩
    · rw [hrecoveries]
      exact hother.bounded recoveries hsome
    · rw [hproof]
      refine hother.stale verifiedAt ?_
      rw [← hstale]
      unfold staleProof
      rw [hrecoveries]
  cases h with
  | keeps hproof _ => exact hframe _ rfl hproof
  | reads | registers => exact hframe _ rfl rfl
  | consumes haccepted =>
    refine ⟨hother.bounded, fun verifiedAt hstale hproof => hverify _ _ _ rfl haccepted ?_⟩
    exact hstale.trans hproof.symm
  | recovers =>
    refine ⟨fun recoveries hsome => ?_, fun _ _ hproof => by cases hproof⟩
    exact le_trans (hother.bounded recoveries hsome) (Nat.le_succ _)

theorem mfaCalls_hold {history : List (VerifyTransition ι)} {p : Pool ι MfaAccount MfaCall}
    (h : Run ((mfaCalls hmac).interleaved ι) history p) (hP : ∀ e ∈ history, verifiesApart e) :
    ∀ i, (p.call i).Holds p.shared := by
  refine (Calls.always (S := fun _ => True) (L := fun _ s call => call.Holds s) (P := verifiesApart)
    (fun _ _ => trivial) ?_ ?_ ?_ h hP).2
  · intro i s call _ hstart
    refine MfaCall.holds_of_recoveries_eq_none s ?_
    cases call <;> first | rfl | cases hstart
  · intro p i moment r _ hcall hr hp
    obtain ⟨hstep, -⟩ := verifyStep_of_step (p := p) (i := i) ⟨r, hr, rfl⟩
    rw [Pool.after_call] at hstep
    refine ⟨trivial, hstep.own ⟨hcall.bounded, hcall.stale⟩ fun recoveries token hread => ?_⟩
    simp only [verifiesApart, hread] at hp
    exact hp
  · intro p i moment r j hj _ _ hother hr hp
    obtain ⟨hstep, -⟩ := verifyStep_of_step (p := p) (i := i) ⟨r, hr, rfl⟩
    refine hstep.other ⟨hother.bounded, hother.stale⟩ fun code remember token hverify haccepted => ?_
    simp only [verifiesApart, hverify] at hp
    exact hp haccepted j

/-- A call that registers a device was verified after the latest recovery. -/
theorem recoveries_of_registeredDevice {history : List (VerifyTransition ι)} {p : Pool ι MfaAccount MfaCall}
    (h : Run ((mfaCalls hmac).interleaved ι) history p) (hP : ∀ e ∈ history, verifiesApart e) {e : VerifyTransition ι}
    (he : e ∈ history) {device : UserTrustedDevice} (hdevice : registeredDevice e = some device) :
    (e.before.call e.label.1).recoveries = some e.before.shared.recoveries := by
  obtain ⟨hs, earlier, hrun, hpast⟩ := h.reached e he
  have hholds := mfaCalls_hold hrun (fun e he => hP e (hpast.subset he)) e.label.1
  obtain ⟨p, ⟨i, moment⟩, p'⟩ := e
  obtain ⟨hstep, -⟩ := verifyStep_of_step hs
  simp only [registeredDevice] at hdevice
  generalize p.call i = call at hstep hdevice hholds ⊢
  generalize p'.call i = call' at hstep hdevice
  generalize p'.shared = s' at hstep
  cases hstep with
  | keeps _ hquiet =>
    split at hdevice
    · cases hquiet
    · cases hdevice
  | consumes | reads | recovers => cases hdevice
  | @registers recoveries verifiedAt deviceToken hproof =>
    have hle := hholds.bounded recoveries rfl
    have hnot : ¬ recoveries < p.shared.recoveries := by
      intro hlate
      exact hholds.stale verifiedAt (if_pos hlate) hproof
    have heq : recoveries = p.shared.recoveries := le_antisymm hle (not_lt.mp hnot)
    exact congrArg some heq

/-- The call took part in no verification, or in one after so many recoveries, and takes part in no other. -/
def MfaCall.IsBound (recoveries : Nat) (call : MfaCall) : Prop :=
  (∀ code remember token, call ≠ .verifyMfaCode code remember token) ∧
    ∀ recoveries', call.recoveries = some recoveries' → recoveries' = recoveries

theorem VerifyStep.isBound {s s' : MfaAccount} {call call' : MfaCall} (h : VerifyStep s call s' call') {recoveries : Nat}
    (hcall : call.IsBound recoveries) : call'.IsBound recoveries := by
  cases h with
  | keeps _ hquiet =>
    constructor
    · rintro code remember token rfl
      cases hquiet
    · intro recoveries' hsome
      rw [MfaCall.recoveries_of_isQuiet hquiet] at hsome
      cases hsome
  | consumes => exact absurd rfl (hcall.1 _ _ _)
  | reads => exact ⟨fun _ _ _ h => (by cases h), hcall.2⟩
  | registers | recovers => exact ⟨fun _ _ _ h => (by cases h), fun _ h => (by cases h)⟩

/-- Recoveries are counted. -/
theorem VerifyStep.le_recoveries {s s' : MfaAccount} {call call' : MfaCall} (h : VerifyStep s call s' call') :
    s.recoveries ≤ s'.recoveries := by
  cases h with
  | recovers => exact Nat.le_succ _
  | _ => exact le_rfl

theorem isBound_step {p p' : Pool ι MfaAccount MfaCall} {l : ι × Moment}
    (h : ((mfaCalls hmac).interleaved ι).step p l p') {i : ι} {recoveries : Nat}
    (hcall : (p.call i).IsBound recoveries) : (p'.call i).IsBound recoveries := by
  obtain ⟨hstep, hothers⟩ := verifyStep_of_step h
  by_cases hi : i = l.1
  · subst hi
    exact hstep.isBound hcall
  · rw [hothers i hi]
    exact hcall

theorem le_recoveries_step {p p' : Pool ι MfaAccount MfaCall} {l : ι × Moment}
    (h : ((mfaCalls hmac).interleaved ι).step p l p') : p.shared.recoveries ≤ p'.shared.recoveries :=
  (verifyStep_of_step h).1.le_recoveries

theorem recoveries_of_isRecovery {p p' : Pool ι MfaAccount MfaCall} {l : ι × Moment}
    (h : ((mfaCalls hmac).interleaved ι).step p l p') (hrecovery : isRecovery ⟨p, l, p'⟩ = true) :
    p.shared.recoveries < p'.shared.recoveries := by
  obtain ⟨hstep, -⟩ := verifyStep_of_step h
  simp only [isRecovery] at hrecovery
  generalize p.call l.1 = call at hstep hrecovery
  generalize p'.call l.1 = call' at hstep hrecovery
  generalize p'.shared = s' at hstep ⊢
  cases hstep with
  | keeps _ hquiet =>
    split at hrecovery
    · cases hquiet
    · cases hrecovery
  | consumes | reads | registers => cases hrecovery
  | recovers => exact Nat.lt_succ_self _

theorem isBound_of_consumes {p p' : Pool ι MfaAccount MfaCall} {l : ι × Moment}
    (h : ((mfaCalls hmac).interleaved ι).step p l p') (hconsumes : consumes ⟨p, l, p'⟩ = true) :
    (p'.call l.1).IsBound p'.shared.recoveries := by
  obtain ⟨hstep, -⟩ := verifyStep_of_step h
  simp only [consumes] at hconsumes
  generalize p.call l.1 = call at hstep hconsumes
  generalize p'.call l.1 = call' at hstep hconsumes ⊢
  generalize p'.shared = s' at hstep ⊢
  cases hstep with
  | keeps _ hquiet =>
    split at hconsumes
    · cases hquiet
    · cases hconsumes
  | consumes => exact ⟨fun _ _ _ h => (by cases h), fun _ h => (Option.some.inj h).symm⟩
  | reads | registers | recovers => cases hconsumes

/-! ## A late read -/

def recoveryVersion : String := "aaaaaaaaaaaaaaaaaaaaaaaaaaaaaaaaaaaaaaaaaaaaaaaaaaaaaaaaaaaaaaaa"

def recoveryRequest : RecoveryRequest where
  actorId := 2
  actor := some { id := 2, email := "m@b.c", role := .super_admin }
  dto := { identityVerified := true, reason := "Called the owner.", expectedRecoveryVersion := recoveryVersion }
  capability
    | .super_admin => some { roleValue := .super_admin, isUserManagementRolesManage := true }
    | _ => none
  auditAvailable := true

/-- Call 0 verifies with code 1. Then come a new login (1) with a wrong guess (2), the recovery (3), a new login (4) and
its verification (5). -/
def lateReadCalls : Pool (Fin 6) MfaAccount MfaCall where
  shared :=
    { user := { id := 1, email := "a@b.c", mfaCode := some 1, mfaExpiresAt := some 900000 }
      devices := [], clock := 0, recoveries := 0 }
  call
    | 0 => .verifyMfaCode (some 1) true (some "d")
    | 1 => .updateMfaCode 2 900000 false
    | 2 => .verifyMfaCode (some 9) false none
    | 3 => .unlockMfa recoveryRequest
    | 4 => .updateMfaCode 3 900000 false
    | 5 => .verifyMfaCode (some 3) false none

/-- Call 0 reads its account last, and registers its device with the verification of call 5. -/
def lateReadSteps : List (Fin 6 × Moment) := [0, 1, 2, 3, 4, 5, 0, 0].map fun i => (i, { now := 0 })

def lateReadLog : (mfaCalls fun _ => recoveryVersion).Log (Fin 6) :=
  ((mfaCalls fun _ => recoveryVersion).execute lateReadCalls lateReadSteps).get (by decide +kernel)

theorem recovery_does_not_reach_a_late_read :
    ∃ history p, Run ((mfaCalls fun _ => recoveryVersion).interleaved (Fin 6)) history p ∧
      ¬ RecoveryRevokes history p := by
  refine ⟨lateReadLog.1, lateReadLog.2, Calls.run_of_execute ?_ (Option.some_get _).symm, fun h => ?_⟩
  · refine ⟨trivial, fun i => ?_⟩
    match i with
    | 0 | 1 | 2 | 3 | 4 | 5 => trivial
  · have hrecovery : isRecovery (lateReadLog.1.get ⟨3, by decide +kernel⟩) = true := by decide +kernel
    have hconsumes : consumes ((lateReadLog.1.take 3).get ⟨0, by decide +kernel⟩) = true := by decide +kernel
    have hregisters : registeredDevice ((lateReadLog.1.drop 4).get ⟨3, by decide +kernel⟩) ≠ none := by decide +kernel
    have hsplit : lateReadLog.1 =
        lateReadLog.1.take 3 ++ lateReadLog.1.get ⟨3, by decide +kernel⟩ :: lateReadLog.1.drop 4 := by
      rw [List.get_eq_getElem, ← List.drop_eq_getElem_cons, List.take_append_drop]
    exact hregisters ((h _ _ _ hsplit hrecovery).1 _ (List.get_mem _ _) hconsumes _ (List.get_mem _ _) (by decide +kernel))

/-- **Recovery revokes earlier verification**, in every run that reads no proof after a recovery but its own, and
accepts no code in the second of a proof held since before one. -/
theorem recovery_revokes_earlier_verification {history : List (VerifyTransition ι)} {p : Pool ι MfaAccount MfaCall}
    (h : Run ((mfaCalls hmac).interleaved ι) history p) (hP : ∀ e ∈ history, verifiesApart e) :
    RecoveryRevokes history p := by
  intro first e rest heq hrecovery
  refine ⟨fun c hc hconsumes r hr hsame => ?_, fun device hdevice =>
    devices_registered_since h device hdevice first e rest heq hrecovery⟩
  by_contra hregisters
  obtain ⟨device, hdevice⟩ := Option.ne_none_iff_exists'.mp hregisters
  have hr' : r ∈ history := by
    rw [heq]
    exact List.mem_append_right _ (List.mem_cons_of_mem _ hr)
  have hcurrent := recoveries_of_registeredDevice h hP hr' hdevice
  -- The call is bound from its own verification on, to fewer recoveries than there are after `e`.
  obtain ⟨before, after, rfl⟩ := List.append_of_mem hc
  obtain ⟨m, hfirst, hlate⟩ := h.split heq
  obtain ⟨a, -, hearly⟩ := hfirst.split rfl
  cases hearly with
  | @cons _ b _ l _ hs hearly =>
    cases hlate with
    | @cons _ b' _ l' _ hs' hlate =>
      obtain ⟨⟨hbound, hle⟩, -⟩ := hearly.always (P := fun _ => True)
        (I := fun p => (p.call l.1).IsBound b.shared.recoveries ∧ b.shared.recoveries ≤ p.shared.recoveries)
        (fun _ _ _ hI hs _ => ⟨isBound_step hs hI.1, le_trans hI.2 (le_recoveries_step hs)⟩)
        ⟨isBound_of_consumes hs hconsumes, le_rfl⟩ (fun _ _ => trivial)
      have hlt : b.shared.recoveries < b'.shared.recoveries := lt_of_le_of_lt hle (recoveries_of_isRecovery hs' hrecovery)
      obtain ⟨-, hrest⟩ := hlate.always (P := fun _ => True)
        (I := fun p => (p.call l.1).IsBound b.shared.recoveries ∧ b.shared.recoveries < p.shared.recoveries)
        (fun _ _ _ hI hs _ => ⟨isBound_step hs hI.1, lt_of_lt_of_le hI.2 (le_recoveries_step hs)⟩)
        ⟨isBound_step hs' hbound, hlt⟩ (fun _ _ => trivial)
      obtain ⟨⟨hbound', hlater⟩, -⟩ := hrest r hr
      rw [hsame] at hcurrent
      exact hlater.ne' (hbound'.2 _ hcurrent)

/-- A verification that registers its device, at the same time as a wrong guess, after a recovery. -/
def promptCalls : Pool (Fin 3) MfaAccount MfaCall where
  shared :=
    { user := { id := 1, email := "a@b.c", mfaCode := some 1, mfaExpiresAt := some 900000, mfaAttempts := 1 }
      devices := [{ deviceToken := "old", expiresAt := 1000 }], clock := 0, recoveries := 0 }
  call
    | 0 => .unlockMfa recoveryRequest
    | 1 => .updateMfaCode 2 900000 false
    | 2 => .verifyMfaCode (some 2) true (some "d")

theorem recovery_revokes_earlier_verification_prompt : ∃ history p,
    Run ((mfaCalls fun _ => recoveryVersion).interleaved (Fin 3)) history p ∧ p.shared.devices.length = 1 ∧
      RecoveryRevokes history p := by
  have hlog : ((mfaCalls fun _ => recoveryVersion).execute promptCalls
      ([0, 1, 2, 2, 2].map fun i => (i, { now := 5 }))).any (fun log => log.2.shared.devices.length = 1 &&
        log.1.all fun e => decide (verifiesApart e)) = true := by decide +kernel
  obtain ⟨log, hexecute, hlog⟩ := (Option.any_eq_true _ _).mp hlog
  rw [Bool.and_eq_true, decide_eq_true_eq, List.all_eq_true] at hlog
  have hrun := Calls.run_of_execute (C := mfaCalls fun _ => recoveryVersion) (p := promptCalls) ?_ hexecute
  · exact ⟨_, _, hrun, hlog.1, recovery_revokes_earlier_verification hrun fun e he => of_decide_eq_true (hlog.2 e he)⟩
  · refine ⟨trivial, fun i => ?_⟩
    match i with
    | 0 | 1 | 2 => trivial

end

end ComplianceHub.Auth
