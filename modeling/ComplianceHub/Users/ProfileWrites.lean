import ComplianceHub.Lib.Calls
import ComplianceHub.Users.Accounts
import ComplianceHub.Users.MfaChallenge

/-!
# Profile writes and MFA state

* `AccountCall`, `accountCalls` : profile writes, which read an entity and save it later, among the MFA transactions;
* `Retires`, `KeepsCounters` : what a profile write must not undo;
* `a_stale_save_restores_a_code` : it does, with an entity that was read before a guess;
* `profile_writes_keep_mfa_state` : it does not where each saved entity has the counters of the row, and its code or none.
-/

namespace ComplianceHub.Users

open ComplianceHub.Lib

/-- A write of a profile, between its read and its save. -/
inductive ProfileWrite where
  | update (dto : UpdateUserDto) (options : UpdateOptions)
  | updatePasswordHash (passwordHash : String)
  | remove
  | resetPassword
  | linkGoogleIdentity (googleSub : String)

/-- The clock at a step, and what the step reads elsewhere. -/
structure WriteAnswer where
  now : Int
  services : UserServices
  db : Directory

/-- The entity that is saved. -/
def ProfileWrite.apply (write : ProfileWrite) (answer : WriteAnswer) (user : User) : Except HttpException User :=
  match write with
  | .update dto options => Users.update answer.services answer.db user dto options
  | .updatePasswordHash passwordHash => .ok (Users.updatePasswordHash user passwordHash)
  | .remove => .ok (Users.remove user)
  | .resetPassword => .ok (Users.resetPassword answer.services user)
  | .linkGoogleIdentity googleSub => .ok (Users.linkGoogleIdentity user googleSub)

/-- The row after the save. `updatePasswordHash` has not read the units. -/
def ProfileWrite.save (write : ProfileWrite) (row user : User) : User :=
  match write with
  | .updatePasswordHash _ => Directory.saved row { user with units := row.units }
  | _ => Directory.saved row user

inductive AccountCall where
  | profile (write : ProfileWrite)
  | loaded (write : ProfileWrite) (user : User)
  /-- A transaction under the lock of the row. -/
  | mfa (event : MfaEvent)
  | ended

def accountStepNow (hmac : MfaRecoveryState → String) (st : MfaState) (call : AccountCall) (answer : WriteAnswer) :
    Option (MfaState × AccountCall) :=
  match call with
  | .profile write => some (st, .loaded write st.user)
  | .loaded write user =>
    match write.apply answer user with
    | .ok user => some ({ st with user := write.save st.user user }, .ended)
    | .error _ => some (st, .ended)
  | .mfa event => (st.next hmac event).map fun st => (st, .ended)
  | .ended => none

/-- Time does not go back. -/
def accountStep (hmac : MfaRecoveryState → String) (st : MfaState) (call : AccountCall) (answer : WriteAnswer) :
    Option (MfaState × AccountCall) :=
  if answer.now < st.clock then none else accountStepNow hmac { st with clock := answer.now } call answer

/-- A call that has not begun. -/
def AccountCall.isStart : AccountCall → Prop
  | .mfa (.tick _) => False
  | .profile _ | .mfa _ => True
  | _ => False

/-- The calls on an account, in whatever state it is by then. -/
def accountCalls (hmac : MfaRecoveryState → String) : Calls MfaState AccountCall WriteAnswer where
  init st := ∀ code, st.user.mfaCode = some code → code ∈ st.codes
  start := AccountCall.isStart
  step := accountStep hmac

/-! ## What a profile write must not undo -/

section
variable {ι : Type}

abbrev AccountTransition (ι : Type) := Transition (Pool ι MfaState AccountCall) (ι × WriteAnswer)

/-- An MFA transaction has consumed, exhausted, superseded or cleared the stored code. -/
def Retires (e : AccountTransition ι) (code : Code) : Prop :=
  (∃ event, e.before.call e.label.1 = .mfa event) ∧ e.before.shared.user.mfaCode = some code ∧
    e.after.shared.user.mfaCode ≠ some code

/-- The attempts and the lock are as they were. -/
def KeepsCounters (row row' : User) : Prop :=
  row'.mfaAttempts = row.mfaAttempts ∧ row'.mfaChallengeAttempts = row.mfaChallengeAttempts ∧
    row'.mfaLockedUntil = row.mfaLockedUntil

def IsProfileStep (e : AccountTransition ι) : Prop := ∀ event, e.before.call e.label.1 ≠ .mfa event

/-- The entity has the attempts and the lock of the row, and its code or none. -/
def IsCurrent (row user : User) : Prop :=
  KeepsCounters row user ∧ (user.mfaCode = none ∨ user.mfaCode = row.mfaCode)

/-- A save finds the row current. -/
def SavesCurrent (e : AccountTransition ι) : Prop :=
  match e.before.call e.label.1 with
  | .loaded write user => (write.apply e.label.2 user).isOk = true → IsCurrent e.before.shared.user user
  | _ => True

instance (row user : User) : Decidable (IsCurrent row user) := inferInstanceAs (Decidable ((_ ∧ _ ∧ _) ∧ (_ ∨ _)))

instance (e : AccountTransition ι) : Decidable (SavesCurrent e) := by
  unfold SavesCurrent
  split <;> infer_instance

end

theorem ProfileWrite.apply_eq_ok {write : ProfileWrite} {answer : WriteAnswer} {user user' : User}
    (h : write.apply answer user = .ok user') : user'.toMfaColumns = user.toMfaColumns := by
  cases write with
  | update dto options => exact (update_eq_ok h).2.2
  | _ =>
    cases h
    rfl

/-- A save writes the MFA columns of the entity. -/
theorem saved_mfaColumns (row user : User) : (Directory.saved row user).toMfaColumns = user.toMfaColumns := by
  unfold Directory.saved
  split_ifs with heq
  · exact (congrArg (fun user : User => user.toMfaColumns) heq).symm
  · rfl

theorem ProfileWrite.save_mfaColumns (write : ProfileWrite) (row user : User) :
    (write.save row user).toMfaColumns = user.toMfaColumns := by
  cases write <;> exact saved_mfaColumns row _

/-! ## Steps -/

/-- What a step of a call makes of the account, whose clock is set. -/
inductive WriteStep (hmac : MfaRecoveryState → String) (answer : WriteAnswer) (st : MfaState) :
    AccountCall → MfaState → Prop
  | reads {write : ProfileWrite} : WriteStep hmac answer st (.profile write) st
  | fails {write : ProfileWrite} {user : User} : WriteStep hmac answer st (.loaded write user) st
  | saves {write : ProfileWrite} {user user' : User} : write.apply answer user = .ok user' →
      WriteStep hmac answer st (.loaded write user) { st with user := write.save st.user user' }
  | transacts {event : MfaEvent} {st' : MfaState} : MfaStep hmac st event st' → WriteStep hmac answer st (.mfa event) st'

variable {ι : Type} [DecidableEq ι] {hmac : MfaRecoveryState → String}

theorem writeStep_of_step {p p' : Pool ι MfaState AccountCall} {l : ι × WriteAnswer}
    (h : ((accountCalls hmac).interleaved ι).step p l p') :
    WriteStep hmac l.2 { p.shared with clock := l.2.now } (p.call l.1) p'.shared := by
  obtain ⟨r, hr, rfl⟩ := h
  have hr : accountStep hmac p.shared (p.call l.1) l.2 = some r := hr
  rw [accountStep] at hr
  split_ifs at hr
  show WriteStep hmac l.2 _ (p.call l.1) r.1
  generalize p.call l.1 = call at hr ⊢
  cases call with
  | profile write =>
    cases hr
    exact .reads
  | loaded write user =>
    simp only [accountStepNow] at hr
    split at hr
    · rename_i user' happly
      cases hr
      exact .saves happly
    · cases hr
      exact .fails
  | mfa event =>
    obtain ⟨st', hnext, rfl⟩ := Option.map_eq_some_iff.mp hr
    exact .transacts (mfaStep_of_next hnext)
  | ended => cases hr

/-- A save that finds the row current leaves its attempts and its lock, and its code or none. -/
theorem isCurrent_save {row user user' : User} {write : ProfileWrite} {answer : WriteAnswer}
    (happly : write.apply answer user = .ok user') (h : IsCurrent row user) : IsCurrent row (write.save row user') := by
  have hcolumns : (write.save row user').toMfaColumns = user.toMfaColumns :=
    (write.save_mfaColumns _ _).trans (ProfileWrite.apply_eq_ok happly)
  rw [IsCurrent, KeepsCounters, hcolumns]
  exact h

/-- A step that stores a code has it from the row, or issues it afresh. -/
theorem WriteStep.code {answer : WriteAnswer} {st st' : MfaState} {call : AccountCall}
    (h : WriteStep hmac answer st call st')
    (hcurrent : ∀ write user, call = .loaded write user → (write.apply answer user).isOk = true → IsCurrent st.user user) :
    (∀ code ∈ st.codes, code ∈ st'.codes) ∧
      ∀ code, st'.user.mfaCode = some code → st.user.mfaCode = some code ∨ code ∉ st.codes ∧ code ∈ st'.codes := by
  cases h with
  | reads | fails => exact ⟨fun _ hcode => hcode, fun _ hcode => .inl hcode⟩
  | saves happly =>
    refine ⟨fun _ hcode => hcode, fun code hcode => .inl ?_⟩
    obtain ⟨-, hnone | hsame⟩ := isCurrent_save happly (hcurrent _ _ rfl (by rw [happly]; rfl))
    · exact absurd (hnone.symm.trans hcode) (by simp)
    · exact hsame.symm.trans hcode
  | transacts hstep =>
    refine ⟨hstep.mem_codes.1, fun code hcode => ?_⟩
    rcases hstep.code hcode with ⟨expiry, hissued, hnew, -⟩ | ⟨-, hbefore, -⟩
    · exact .inr ⟨hnew, hstep.mem_codes.2 _ _ hissued⟩
    · exact .inl hbefore

theorem code_step {p p' : Pool ι MfaState AccountCall} {l : ι × WriteAnswer}
    (h : ((accountCalls hmac).interleaved ι).step p l p') (hp : SavesCurrent ⟨p, l, p'⟩) :
    (∀ code ∈ p.shared.codes, code ∈ p'.shared.codes) ∧ ∀ code, p'.shared.user.mfaCode = some code →
      p.shared.user.mfaCode = some code ∨ code ∉ p.shared.codes ∧ code ∈ p'.shared.codes := by
  refine (writeStep_of_step h).code fun write user hcall happly => ?_
  simp only [SavesCurrent, hcall] at hp
  exact hp happly

/-- The stored code is one that was issued. -/
theorem storedCode_mem {history : List (AccountTransition ι)} {p : Pool ι MfaState AccountCall}
    (h : Run ((accountCalls hmac).interleaved ι) history p) (hP : ∀ e ∈ history, SavesCurrent e) :
    ∀ code, p.shared.user.mfaCode = some code → code ∈ p.shared.codes := by
  refine Run.always (P := SavesCurrent) (I := fun p => ∀ code, p.shared.user.mfaCode = some code → code ∈ p.shared.codes)
    ?_ ?_ h hP
  · intro p hinit
    exact hinit.1
  · intro p l p' ih hs hp code hcode
    obtain ⟨hgrows, hstored⟩ := code_step hs hp
    rcases hstored code hcode with hbefore | ⟨-, hissued⟩
    · exact hgrows code (ih code hbefore)
    · exact hissued

/-- An issued code that is not stored any more stays so. -/
theorem retired_step {p p' : Pool ι MfaState AccountCall} {l : ι × WriteAnswer}
    (h : ((accountCalls hmac).interleaved ι).step p l p') (hp : SavesCurrent ⟨p, l, p'⟩) {code : Code}
    (hretired : code ∈ p.shared.codes ∧ p.shared.user.mfaCode ≠ some code) :
    code ∈ p'.shared.codes ∧ p'.shared.user.mfaCode ≠ some code := by
  obtain ⟨hgrows, hstored⟩ := code_step h hp
  refine ⟨hgrows code hretired.1, fun hcode => ?_⟩
  rcases hstored code hcode with hbefore | ⟨hnew, -⟩
  · exact hretired.2 hbefore
  · exact hnew hretired.1

/-- A profile step that finds the row current leaves attempts and lock. -/
theorem keepsCounters_step {p p' : Pool ι MfaState AccountCall} {l : ι × WriteAnswer}
    (h : ((accountCalls hmac).interleaved ι).step p l p') (hp : SavesCurrent ⟨p, l, p'⟩)
    (hprofile : IsProfileStep ⟨p, l, p'⟩) : KeepsCounters p.shared.user p'.shared.user := by
  have hstep := writeStep_of_step h
  simp only [SavesCurrent] at hp
  simp only [IsProfileStep] at hprofile
  generalize p.call l.1 = call at hstep hp hprofile
  generalize p'.shared = st' at hstep ⊢
  cases hstep with
  | reads | fails => exact ⟨rfl, rfl, rfl⟩
  | saves happly =>
    exact (isCurrent_save happly (hp (by rw [happly]; rfl))).1
  | transacts => exact absurd rfl (hprofile _)

/-- **Profile writes never undo MFA state**, in every run whose saves find the row's attempts and lock in the entity, and
its code or none: a retired code is not stored again, and profile steps leave the attempts and the lock. -/
theorem profile_writes_keep_mfa_state {history : List (AccountTransition ι)} {p : Pool ι MfaState AccountCall}
    (h : Run ((accountCalls hmac).interleaved ι) history p) (hP : ∀ e ∈ history, SavesCurrent e) :
    (∀ first e rest code, history = first ++ e :: rest → Retires e code →
        ∀ e' ∈ rest, e'.after.shared.user.mfaCode ≠ some code) ∧
      ∀ e ∈ history, IsProfileStep e → KeepsCounters e.before.shared.user e.after.shared.user := by
  constructor
  · rintro first ⟨a, l, b⟩ rest code rfl ⟨-, hstored, hgone⟩
    obtain ⟨a', hfirst, hsegment⟩ := h.split rfl
    cases hsegment with
    | cons hs hrest =>
      have hPe : SavesCurrent ⟨a, l, b⟩ := hP _ (List.mem_append_right _ List.mem_cons_self)
      have hissued : code ∈ a.shared.codes :=
        storedCode_mem hfirst (fun e he => hP e (List.mem_append_left _ he)) code hstored
      have hretired : code ∈ b.shared.codes ∧ b.shared.user.mfaCode ≠ some code :=
        ⟨(code_step hs hPe).1 code hissued, hgone⟩
      have hPrest : ∀ e ∈ rest, SavesCurrent e := fun e he =>
        hP e (List.mem_append_right _ (List.mem_cons_of_mem _ he))
      obtain ⟨-, hbefore⟩ := hrest.always (P := SavesCurrent)
        (I := fun p => code ∈ p.shared.codes ∧ p.shared.user.mfaCode ≠ some code)
        (fun _ _ _ hI hs hp => retired_step hs hp hI) hretired hPrest
      intro e he
      obtain ⟨hI, hs⟩ := hbefore e he
      exact (retired_step hs (hPrest e he) hI).2
  · intro e he hprofile
    exact keepsCounters_step (h.reached e he).1 (hP e he) hprofile

/-! ## A stale save -/

def quietAnswer : WriteAnswer where
  now := 0
  services := { isEmailDomainAllowed := fun _ => true, isListedStaffId := fun _ => true, defaultPassword := "", hash := id }
  db := {}

/-- Call 0 changes a password, call 1 verifies with the stored code. -/
def staleSaveCalls : Pool (Fin 2) MfaState AccountCall where
  shared :=
    { user := { id := 1, email := "a@b.c", mfaCode := some 7, mfaExpiresAt := some 900000 }, codes := [7], clock := 0 }
  call
    | 0 => .profile (.updatePasswordHash "h")
    | 1 => .mfa (.consumeMfaChallenge (some 7))

/-- The code is consumed between the read and the save. -/
def staleSaveSteps : List (Fin 2 × WriteAnswer) :=
  [⟨0, Nat.two_pos⟩, ⟨1, Nat.one_lt_two⟩, ⟨0, Nat.two_pos⟩].map fun i => (i, quietAnswer)

theorem staleSave_executes : ((accountCalls fun _ => "").execute staleSaveCalls staleSaveSteps).isSome = true := by
  decide +kernel

def staleSaveLog : (accountCalls fun _ => "").Log (Fin 2) :=
  ((accountCalls fun _ => "").execute staleSaveCalls staleSaveSteps).get staleSave_executes

theorem staleSave_init : ((accountCalls fun _ => "").interleaved (Fin 2)).init staleSaveCalls := by
  refine ⟨fun code hcode => ?_, fun i => ?_⟩
  · rw [← Option.some.inj hcode]
    exact List.mem_cons_self
  · match i with
    | 0 | 1 => trivial

theorem a_stale_save_restores_a_code : ∃ history p, Run ((accountCalls fun _ => "").interleaved (Fin 2)) history p ∧
    ∃ first e rest code, history = first ++ e :: rest ∧ Retires e code ∧
      ∃ e' ∈ rest, e'.after.shared.user.mfaCode = some code := by
  refine ⟨staleSaveLog.1, staleSaveLog.2, Calls.run_of_execute staleSave_init (Option.some_get _).symm,
    staleSaveLog.1.take 1, staleSaveLog.1.get ⟨1, by decide +kernel⟩, staleSaveLog.1.drop 2, 7, ?_,
    ⟨⟨_, rfl⟩, ?_, ?_⟩, (staleSaveLog.1.drop 2).get ⟨0, by decide +kernel⟩, List.get_mem _ _, ?_⟩
  · rw [List.get_eq_getElem, ← List.drop_eq_getElem_cons, List.take_append_drop]
  · decide +kernel
  · decide +kernel
  · decide +kernel

/-- The password is saved before the code is consumed. -/
theorem profile_writes_keep_mfa_state_prompt : ∃ history p,
    Run ((accountCalls fun _ => "").interleaved (Fin 2)) history p ∧ p.shared.user.mfaCode = none ∧
    (∀ first e rest code, history = first ++ e :: rest → Retires e code →
        ∀ e' ∈ rest, e'.after.shared.user.mfaCode ≠ some code) ∧
      ∀ e ∈ history, IsProfileStep e → KeepsCounters e.before.shared.user e.after.shared.user := by
  have hlog : ((accountCalls fun _ => "").execute staleSaveCalls ([0, 0, 1].map fun i => (i, quietAnswer))).any
      (fun log => log.2.shared.user.mfaCode = none && log.1.all fun e => decide (SavesCurrent e)) = true := by
    decide +kernel
  obtain ⟨log, hexecute, hlog⟩ := (Option.any_eq_true _ _).mp hlog
  rw [Bool.and_eq_true, decide_eq_true_eq, List.all_eq_true] at hlog
  have hrun := Calls.run_of_execute (C := accountCalls fun _ => "") (p := staleSaveCalls) ?_ hexecute
  · exact ⟨_, _, hrun, hlog.1, profile_writes_keep_mfa_state hrun fun e he => of_decide_eq_true (hlog.2 e he)⟩
  · exact staleSave_init

end ComplianceHub.Users
