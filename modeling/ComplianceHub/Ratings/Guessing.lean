import ComplianceHub.Ratings.Invitation

/-!
# Guessing a verification code

* `guessCalls` : any number of `requestVerificationCode` and `verifyCode`;
* `evaluation` : the issued code a step compares with the code of its caller, and whether they agree;
* `WithstandsGuessing` : of each issued code at most five incorrect guesses are evaluated, and it opens one session;
* `FindsCode` : the step evaluates the code, and the attempts at it, that the row still has;
* `guesses_of_late_saves` : six incorrect guesses, and two sessions, of one code;
* `withstands_guessing` : the bound, in every run whose steps find the code they evaluate.
-/

namespace ComplianceHub.Ratings

open ComplianceHub.Lib

/-- The code a row accepts, if any. -/
def RatingInvitation.serial (row : RatingInvitation) : Option Nat := row.otpHash.map IssuedCode.serial

/-- The codes of a table are distinct, and none of them has been tried five times. -/
structure Coded (db : RatingDb) : Prop where
  distinct : Distinct db
  issued : ∀ row ∈ db.invitations, ∀ n, row.serial = some n → n < db.issued
  unique : ∀ row ∈ db.invitations, ∀ row' ∈ db.invitations, ∀ n, row.serial = some n → row'.serial = some n → row = row'
  few : ∀ row ∈ db.invitations, ∀ n, row.serial = some n → row.otpAttempts < 5

/-- A call of `requestVerificationCode` or `verifyCode` that has not begun. -/
def RatingCall.isGuessStart : RatingCall → Prop
  | .requestVerificationCode _ | .verifyCode _ _ => True
  | _ => False

/-- Any number of requests for a code and of guesses. -/
def guessCalls (hash : String → String) : Calls RatingDb RatingCall Moment where
  init := Coded
  start := RatingCall.isGuessStart
  step := ratingStep hash

/-! ## Guesses -/

section
variable (hash : String → String)

/-- The code a step evaluates, and whether its caller knows it. -/
def evaluation (call : RatingCall) (m : Moment) : Option (Nat × Bool) :=
  match call with
  | .verifying invitation code =>
    if m.accountAccess.isNone && isSixDigits code && invitation.otpExpiresAt.any (fun time => m.now < time) then
      invitation.otpHash.map fun issued => (issued.serial, codeDigest hash invitation code = issued.digest)
    else none
  | _ => none

variable {ι : Type}

abbrev GuessTransition (ι : Type) := Transition (Pool ι RatingDb RatingCall) (ι × Moment)

/-- An incorrect guess of the code. -/
def isIncorrect (serial : Nat) (e : GuessTransition ι) : Bool :=
  evaluation hash (e.before.call e.label.1) e.label.2 = some (serial, false)

end

/-- The code with which a step has opened a session. -/
def openedWith (call call' : RatingCall) : Option Nat :=
  match call, call' with
  | .verifying invitation _, .returned (.session _ _) => invitation.serial
  | _, _ => none

section
variable {ι : Type}

/-- A session opened with the code. -/
def opensSession (serial : Nat) (e : GuessTransition ι) : Bool :=
  openedWith (e.before.call e.label.1) (e.after.call e.label.1) = some serial

/-- At most five incorrect guesses of each code, and one session. -/
def WithstandsGuessing (hash : String → String) (history : List (GuessTransition ι)) : Prop :=
  ∀ serial, history.countP (isIncorrect hash serial) ≤ 5 ∧ history.countP (opensSession serial) ≤ 1

end

/-- The row of an invitation still has the code it was read with, and as many attempts unless the code is known. -/
def HasCode (db : RatingDb) (invitation : RatingInvitation) (correct : Bool) : Prop :=
  ∃ row ∈ db.invitations, row.id = invitation.id ∧ row.otpHash = invitation.otpHash ∧
    (correct = false → row.otpAttempts = invitation.otpAttempts)

/-- The step evaluates no code but the one its invitation still has. -/
def FindsCode (hash : String → String) (db : RatingDb) (call : RatingCall) (m : Moment) : Prop :=
  match call with
  | .verifying invitation _ => ∀ guess ∈ evaluation hash call m, HasCode db invitation guess.2
  | _ => True

instance (db : RatingDb) (invitation : RatingInvitation) (correct : Bool) : Decidable (HasCode db invitation correct) := by
  unfold HasCode
  infer_instance

instance (hash : String → String) (db : RatingDb) (call : RatingCall) (m : Moment) :
    Decidable (FindsCode hash db call m) := by
  unfold FindsCode
  split <;> infer_instance

/-! ## What a step does -/

/-- A call of `requestVerificationCode` or `verifyCode`, at any of its points. -/
def RatingCall.isGuess : RatingCall → Bool
  | .requestVerificationCode _ | .requesting _ | .mailingCode _ | .verifyCode _ _ | .verifying _ _ | .expiring _
  | .returned _ | .failed _ => true
  | _ => false

/-- A step has returned no session. -/
def RatingCall.hasSession : RatingCall → Bool
  | .returned (.session _ _) => true
  | _ => false

/-- The step of such a call. -/
inductive GuessStep (hash : String → String) (db : RatingDb) (call : RatingCall) (m : Moment) :
    RatingDb → RatingCall → Prop
  | idle {call' : RatingCall} : evaluation hash call m = none → call'.hasSession = false →
      GuessStep hash db call m db call'
  | forgets {call' : RatingCall} (saved : RatingInvitation) : evaluation hash call m = none →
      call'.hasSession = false → saved.otpHash = none → GuessStep hash db call m (db.save saved) call'
  | issues {call' : RatingCall} (saved : RatingInvitation) : evaluation hash call m = none →
      call'.hasSession = false → saved.serial = some db.issued → saved.otpAttempts = 0 →
      GuessStep hash db call m { db.save saved with issued := db.issued + 1 } call'
  | fails {call' : RatingCall} {invitation : RatingInvitation} {code : String} {serial : Nat} :
      call = .verifying invitation code → evaluation hash call m = some (serial, false) →
      invitation.serial = some serial → call'.hasSession = false →
      GuessStep hash db call m (db.save (verificationFailed invitation)) call'
  | verifies {call' : RatingCall} {invitation : RatingInvitation} {code : String} {serial : Nat} :
      call = .verifying invitation code → evaluation hash call m = some (serial, true) →
      invitation.serial = some serial → openedWith call call' = some serial →
      GuessStep hash db call m (db.save (recipientVerified hash invitation m)) call'

variable {hash : String → String} {db : RatingDb} {call : RatingCall} {m : Moment}

theorem hasSession_follow (found : Found) {next : RatingInvitation → RatingCall}
    (hnext : ∀ invitation, (next invitation).hasSession = false ∧ (next invitation).isGuess = true) :
    (found.follow (fun invitation _ => .expiring invitation) next).hasSession = false ∧
      (found.follow (fun invitation _ => .expiring invitation) next).isGuess = true := by
  cases found with
  | refused failure => exact ⟨rfl, rfl⟩
  | expired invitation invitationExpired => exact ⟨rfl, rfl⟩
  | active invitation => exact hnext invitation

theorem guessStep_requestVerificationCode (invitation : RatingInvitation) :
    GuessStep hash db (.requesting invitation) m (requestVerificationCode hash db invitation m).1
      (requestVerificationCode hash db invitation m).2 ∧
      (requestVerificationCode hash db invitation m).2.isGuess = true := by
  unfold requestVerificationCode
  split
  · exact ⟨.idle rfl rfl, rfl⟩
  · split
    · exact ⟨.idle rfl rfl, rfl⟩
    · split
      · exact ⟨.idle rfl rfl, rfl⟩
      · split
        · exact ⟨.idle rfl rfl, rfl⟩
        · split
          · exact ⟨.forgets (revokedAfterEmailChange invitation m.now) rfl rfl rfl, rfl⟩
          · exact ⟨.issues (withCode hash db invitation m) rfl rfl rfl rfl, rfl⟩

theorem guessStep_codeMailed (invitation : RatingInvitation) :
    GuessStep hash db (.mailingCode invitation) m (codeMailed db invitation m).1 (codeMailed db invitation m).2 ∧
      (codeMailed db invitation m).2.isGuess = true := by
  unfold codeMailed
  split
  · exact ⟨.idle rfl rfl, rfl⟩
  · exact ⟨.forgets (withoutCode invitation) rfl rfl rfl, rfl⟩

theorem guessStep_verifyCode (invitation : RatingInvitation) (code : String) :
    GuessStep hash db (.verifying invitation code) m (verifyCode hash db invitation code m).1
      (verifyCode hash db invitation code m).2 ∧ (verifyCode hash db invitation code m).2.isGuess = true := by
  unfold verifyCode
  split
  · rename_i e haccess
    exact ⟨.idle (by simp [evaluation, haccess]) rfl, rfl⟩
  · rename_i haccess
    split
    · rename_i hdigits
      exact ⟨.idle (by simp [evaluation, hdigits]) rfl, rfl⟩
    · rename_i hdigits
      split
      · rename_i issued otpExpiresAt hissued hexpires
        have hserial : invitation.serial = some issued.serial := by rw [RatingInvitation.serial, hissued]; rfl
        split
        · rename_i hexpired
          refine ⟨.forgets (withoutCode invitation) ?_ rfl rfl, rfl⟩
          simp [evaluation, hexpires, not_lt.mpr hexpired]
        · rename_i hcurrent
          have hevaluates : evaluation hash (.verifying invitation code) m =
              some (issued.serial, decide (codeDigest hash invitation code = issued.digest)) := by
            simp [evaluation, haccess, not_not.mp hdigits, hissued, hexpires, not_le.mp hcurrent]
          split
          · rename_i hwrong
            rw [decide_eq_false hwrong] at hevaluates
            exact ⟨.fails rfl hevaluates hserial rfl, rfl⟩
          · rename_i hright
            rw [decide_eq_true (not_not.mp hright)] at hevaluates
            exact ⟨.verifies rfl hevaluates hserial hserial, rfl⟩
      · rename_i hno
        refine ⟨.idle ?_ rfl, rfl⟩
        cases hexpires : invitation.otpExpiresAt with
        | none => simp [evaluation, hexpires]
        | some otpExpiresAt =>
          cases hissued : invitation.otpHash with
          | none => simp [evaluation, hissued]
          | some issued => exact absurd hexpires (hno issued otpExpiresAt hissued)

theorem guessStep_cases {r : RatingDb × RatingCall} (h : ratingStep hash db call m = some r) (hcall : call.isGuess = true) :
    GuessStep hash db call m r.1 r.2 ∧ r.2.isGuess = true := by
  cases call with
  | requestVerificationCode rawToken =>
    cases h
    obtain ⟨hsession, hguess⟩ :=
      hasSession_follow (getActiveInvitationByToken hash db rawToken m.now) fun invitation =>
        (⟨rfl, rfl⟩ : (RatingCall.requesting invitation).hasSession = false ∧ _)
    exact ⟨.idle rfl hsession, hguess⟩
  | requesting invitation =>
    cases h
    exact guessStep_requestVerificationCode invitation
  | mailingCode invitation =>
    cases h
    exact guessStep_codeMailed invitation
  | verifyCode rawToken code =>
    cases h
    obtain ⟨hsession, hguess⟩ :=
      hasSession_follow (getActiveInvitationByToken hash db rawToken m.now) fun invitation =>
        (⟨rfl, rfl⟩ : (RatingCall.verifying invitation code).hasSession = false ∧ _)
    exact ⟨.idle rfl hsession, hguess⟩
  | verifying invitation code =>
    cases h
    exact guessStep_verifyCode invitation code
  | expiring invitation =>
    cases h
    exact ⟨.forgets (expired invitation) rfl rfl rfl, rfl⟩
  | returned answer => cases h
  | failed failure => cases h
  | _ => cases hcall

/-! ## What the guesses leave -/

/-- The incorrect guesses and the sessions of each code so far, against the table they have left. -/
structure Guarded (db : RatingDb) (incorrect sessions : Nat → Nat) : Prop extends Coded db where
  counted : ∀ row ∈ db.invitations, ∀ n, row.serial = some n → incorrect n ≤ row.otpAttempts ∧ sessions n = 0
  fresh : ∀ n, db.issued ≤ n → incorrect n = 0 ∧ sessions n = 0
  bounded : ∀ n, incorrect n ≤ 5 ∧ sessions n ≤ 1

variable {incorrect sessions incorrect' sessions' : Nat → Nat}

/-- A save, with what it adds to the counts of codes that no other row has. -/
theorem Guarded.save (h : Guarded db incorrect sessions) {saved : RatingInvitation} {issued : Nat}
    (hissued : db.issued ≤ issued)
    (hsaved : ∀ n, saved.serial = some n → n < issued ∧ saved.otpAttempts < 5 ∧ incorrect' n ≤ saved.otpAttempts ∧
      sessions' n = 0 ∧ ∀ row ∈ db.invitations, row.id ≠ saved.id → row.serial ≠ some n)
    (hother : ∀ row ∈ db.invitations, row.id ≠ saved.id → ∀ n, row.serial = some n →
      incorrect' n = incorrect n ∧ sessions' n = sessions n)
    (hfresh : ∀ n, issued ≤ n → incorrect' n = 0 ∧ sessions' n = 0)
    (hbounded : ∀ n, incorrect' n ≤ 5 ∧ sessions' n ≤ 1) :
    Guarded { db.save saved with issued := issued } incorrect' sessions' := by
  refine ⟨⟨h.distinct.save saved, ?_, ?_, ?_⟩, ?_, hfresh, hbounded⟩
  · intro row hrow n hn
    rcases mem_save hrow with rfl | ⟨hold, -⟩
    · exact (hsaved n hn).1
    · exact Nat.lt_of_lt_of_le (h.issued row hold n hn) hissued
  · intro row hrow row' hrow' n hn hn'
    rcases mem_save hrow with heq | ⟨hold, hid⟩
    · rcases mem_save hrow' with heq' | ⟨hold', hid'⟩
      · rw [heq, heq']
      · rw [heq] at hn
        exact absurd hn' ((hsaved n hn).2.2.2.2 row' hold' hid')
    · rcases mem_save hrow' with heq' | ⟨hold', hid'⟩
      · rw [heq'] at hn'
        exact absurd hn ((hsaved n hn').2.2.2.2 row hold hid)
      · exact h.unique row hold row' hold' n hn hn'
  · intro row hrow n hn
    rcases mem_save hrow with rfl | ⟨hold, -⟩
    · exact (hsaved n hn).2.1
    · exact h.few row hold n hn
  · intro row hrow n hn
    rcases mem_save hrow with rfl | ⟨hold, hid⟩
    · exact ⟨(hsaved n hn).2.2.1, (hsaved n hn).2.2.2.1⟩
    · obtain ⟨hincorrect, hsessions⟩ := hother row hold hid n hn
      rw [hincorrect, hsessions]
      exact h.counted row hold n hn

theorem openedWith_of_hasSession {call' : RatingCall} (h : call'.hasSession = false) : openedWith call call' = none := by
  unfold openedWith
  split
  · cases h
  · rfl

/-- What a step adds to a count. -/
def plus (count : Nat → Nat) (n : Option Nat) : Nat → Nat := fun k => count k + if n = some k then 1 else 0

theorem plus_self (count : Nat → Nat) (n : Nat) : plus count (some n) n = count n + 1 := by
  rw [plus, if_pos rfl]

theorem plus_of_ne {n k : Nat} (count : Nat → Nat) (h : n ≠ k) : plus count (some n) k = count k := by
  rw [plus, if_neg fun heq => h (Option.some.inj heq)]
  rfl

/-- The code that was guessed incorrectly. -/
def incorrectOf (guess : Option (Nat × Bool)) : Option Nat :=
  match guess with
  | some (n, false) => some n
  | _ => none

theorem HasCode.serial {invitation : RatingInvitation} {correct : Bool} (h : HasCode db invitation correct) {n : Nat}
    (hn : invitation.serial = some n) :
    ∃ row ∈ db.invitations, row.id = invitation.id ∧ row.serial = some n ∧
      (correct = false → row.otpAttempts = invitation.otpAttempts) := by
  obtain ⟨row, hrow, hid, hotp, hattempts⟩ := h
  refine ⟨row, hrow, hid, ?_, hattempts⟩
  rw [RatingInvitation.serial, hotp]
  exact hn

theorem verificationFailed_serial {invitation : RatingInvitation} {n : Nat}
    (h : (verificationFailed invitation).serial = some n) :
    invitation.serial = some n ∧ (verificationFailed invitation).otpAttempts = invitation.otpAttempts + 1 ∧
      invitation.otpAttempts + 1 < 5 := by
  unfold verificationFailed isExhausted at *
  split_ifs at h ⊢ with hexhausted
  · cases h
  · exact ⟨h, rfl, not_le.mp (of_decide_eq_false (Bool.eq_false_of_not_eq_true hexhausted))⟩

theorem verificationFailed_id (invitation : RatingInvitation) :
    (verificationFailed invitation).id = invitation.id := by
  unfold verificationFailed
  split_ifs <;> rfl

/-- One step that finds the code it evaluates. -/
theorem Guarded.step {db' : RatingDb} {call' : RatingCall} (h : Guarded db incorrect sessions)
    (hstep : GuessStep hash db call m db' call') (hfinds : FindsCode hash db call m) :
    Guarded db' (plus incorrect (incorrectOf (evaluation hash call m))) (plus sessions (openedWith call call')) := by
  cases hstep with
  | idle hevaluates hsession =>
    rw [hevaluates, openedWith_of_hasSession hsession]
    exact h
  | forgets saved hevaluates hsession hcode =>
    rw [hevaluates, openedWith_of_hasSession hsession]
    have hnone : ∀ n, saved.serial ≠ some n := by
      intro n hn
      rw [RatingInvitation.serial, hcode] at hn
      cases hn
    exact h.save (Nat.le_refl _) (fun n hn => absurd hn (hnone n)) (fun _ _ _ _ _ => ⟨rfl, rfl⟩) h.fresh h.bounded
  | issues saved hevaluates hsession hserial hattempts =>
    rw [hevaluates, openedWith_of_hasSession hsession]
    refine h.save (Nat.le_succ _) (fun n hn => ?_) (fun _ _ _ _ _ => ⟨rfl, rfl⟩)
      (fun n hn => h.fresh n (Nat.le_of_succ_le hn)) h.bounded
    obtain rfl := Option.some.inj (hserial.symm.trans hn)
    obtain ⟨hincorrect, hsessions⟩ := h.fresh db.issued (Nat.le_refl _)
    refine ⟨Nat.lt_succ_self _, by omega, ?_, hsessions, fun row hrow _ hissued => ?_⟩
    · show incorrect db.issued ≤ _
      omega
    · exact absurd (h.issued row hrow _ hissued) (Nat.lt_irrefl _)
  | @fails _ invitation code serial hcall hevaluates hserial hsession =>
    rw [openedWith_of_hasSession hsession]
    subst hcall
    obtain ⟨row, hrow, hid, hcode, hattempts⟩ := (hfinds _ (Option.mem_def.mpr hevaluates)).serial hserial
    have hattempts := hattempts rfl
    obtain ⟨hincorrect, hsessions⟩ := h.counted row hrow serial hcode
    have hfew := h.few row hrow serial hcode
    have hissued := h.issued row hrow serial hcode
    have hothers : ∀ other ∈ db.invitations, other.id ≠ (verificationFailed invitation).id → ∀ n,
        other.serial = some n → serial ≠ n := by
      rintro other hother hne n hn rfl
      rw [verificationFailed_id, ← hid] at hne
      exact hne (congrArg RatingInvitation.id (h.unique other hother row hrow serial hn hcode))
    rw [hevaluates]
    show Guarded _ (plus incorrect (some serial)) (plus sessions none)
    refine h.save (Nat.le_refl _) (fun n hn => ?_) (fun other hother hne n hn => ?_) (fun n hn => ?_) fun n => ?_
    · obtain ⟨hn, hnow, hlt⟩ := verificationFailed_serial hn
      obtain rfl := Option.some.inj (hserial.symm.trans hn)
      refine ⟨hissued, by omega, ?_, hsessions, fun other hother hne hother' => hothers other hother hne _ hother' rfl⟩
      rw [plus_self]
      omega
    · exact ⟨plus_of_ne incorrect (hothers other hother hne n hn), rfl⟩
    · rw [plus_of_ne incorrect (show serial ≠ n by omega)]
      exact h.fresh n hn
    · by_cases hn : serial = n
      · subst hn
        refine ⟨?_, (h.bounded serial).2⟩
        rw [plus_self]
        omega
      · rw [plus_of_ne incorrect hn]
        exact h.bounded n
  | @verifies _ invitation code serial hcall hevaluates hserial hopened =>
    rw [hopened]
    subst hcall
    obtain ⟨row, hrow, hid, hcode, -⟩ := (hfinds _ (Option.mem_def.mpr hevaluates)).serial hserial
    obtain ⟨-, hsessions⟩ := h.counted row hrow serial hcode
    have hissued := h.issued row hrow serial hcode
    rw [hevaluates]
    show Guarded _ (plus incorrect none) (plus sessions (some serial))
    refine h.save (Nat.le_refl _) (fun n hn => ?_) (fun other hother hne n hn => ⟨rfl, plus_of_ne sessions ?_⟩)
      (fun n hn => ?_) fun n => ?_
    · cases hn
    · rintro rfl
      exact hne ((congrArg RatingInvitation.id (h.unique other hother row hrow serial hn hcode)).trans hid)
    · rw [plus_of_ne sessions (show serial ≠ n by omega)]
      exact h.fresh n hn
    · by_cases hn : serial = n
      · subst hn
        refine ⟨(h.bounded serial).1, ?_⟩
        rw [plus_self]
        omega
      · rw [plus_of_ne sessions hn]
        exact h.bounded n

/-! ## Runs -/

section
variable {ι : Type} {history : List (GuessTransition ι)} {p : Pool ι RatingDb RatingCall}

theorem countP_concat {α : Type} (marked : Nat → α → Bool) (of : α → Option Nat) (h : ∀ n e, marked n e = true ↔ of e = some n)
    (history : List α) (e : α) :
    (fun n => (history ++ [e]).countP (marked n)) = plus (fun n => history.countP (marked n)) (of e) := by
  funext n
  rw [List.countP_append, List.countP_singleton, plus]
  simp only [h]

theorem isIncorrect_iff (n : Nat) (e : GuessTransition ι) :
    isIncorrect hash n e = true ↔ incorrectOf (evaluation hash (e.before.call e.label.1) e.label.2) = some n := by
  unfold isIncorrect incorrectOf
  rw [decide_eq_true_eq]
  split
  · rename_i k hk
    rw [hk]
    simp
  · rename_i hno
    exact iff_of_false (hno n) (by simp)

theorem opensSession_iff (n : Nat) (e : GuessTransition ι) :
    opensSession n e = true ↔ openedWith (e.before.call e.label.1) (e.after.call e.label.1) = some n :=
  decide_eq_true_iff

variable [DecidableEq ι]

/-- **A code withstands guessing**, in every run whose steps find the code they evaluate. -/
theorem withstands_guessing (h : Run ((guessCalls hash).interleaved ι) history p)
    (hP : ∀ e ∈ history, FindsCode hash e.before.shared (e.before.call e.label.1) e.label.2) :
    WithstandsGuessing hash history := by
  have hinv := Run.invariant (I := fun history p => Guarded p.shared (fun n => history.countP (isIncorrect hash n))
      (fun n => history.countP (opensSession n)) ∧ ∀ i, (p.call i).isGuess = true) ?_ ?_ h hP
  · exact hinv.1.bounded
  · rintro p ⟨hp, hstart⟩
    refine ⟨⟨hp, fun _ _ _ _ => ⟨Nat.zero_le _, rfl⟩, fun _ _ => ⟨rfl, rfl⟩, fun _ => ⟨Nat.zero_le _, Nat.zero_le _⟩⟩, ?_⟩
    intro i
    have hi := hstart i
    generalize p.call i = call at hi
    cases call <;> first | rfl | cases hi
  · rintro history a ⟨i, m⟩ b - ⟨hguarded, hguess⟩ ⟨r, hr, rfl⟩ hfinds
    obtain ⟨hstep, hnext⟩ := guessStep_cases hr (hguess i)
    refine ⟨?_, fun j => ?_⟩
    · rw [countP_concat _ _ isIncorrect_iff, countP_concat _ _ opensSession_iff, Pool.after_call]
      exact hguarded.step hstep hfinds
    · by_cases hj : j = i
      · subst hj
        rw [Pool.after_call]
        exact hnext
      · rw [Pool.after_call_of_ne a r hj]
        exact hguess j

end

/-! ## Guesses at the same time -/

/-- A request for a code, six guesses of another and two callers who know it. -/
def nineCalls : Pool (Fin 9) RatingDb RatingCall where
  shared :=
    { invitations := [{ id := 0, requesterId := 7, recipientEmail := "r@example.com",
                        tokenHash := "AAAAAAAAAAAAAAAAAAAAAAAAAAAAAAAAAAAAAAAAAAA", status := .active, createdById := 1,
                        expiresAt := 604800000, emailDeliveryStatus := .sent }], nextId := 1 }
  call i :=
    if i.val = 0 then .requestVerificationCode "AAAAAAAAAAAAAAAAAAAAAAAAAAAAAAAAAAAAAAAAAAA"
    else .verifyCode "AAAAAAAAAAAAAAAAAAAAAAAAAAAAAAAAAAAAAAAAAAA" (if i.val < 7 then "000000" else "123456")

def guessMoment : Moment := { now := 0, random := "123456", users := [⟨7, "r@example.com", .user, true⟩] }

theorem nineCalls_init : ((guessCalls id).interleaved (Fin 9)).init nineCalls := by
  have hrow : ∀ row ∈ nineCalls.shared.invitations, row.serial = none := by
    intro row hrow
    obtain rfl := List.mem_singleton.mp hrow
    rfl
  refine ⟨⟨List.nodup_singleton _, ?_, ?_, ?_⟩, fun i => ?_⟩
  · intro row hmem n hn
    rw [hrow row hmem] at hn
    cases hn
  · intro row hmem _ _ n hn
    rw [hrow row hmem] at hn
    cases hn
  · intro row hmem n hn
    rw [hrow row hmem] at hn
    cases hn
  · show RatingCall.isGuessStart (if i.val = 0 then _ else _)
    split <;> trivial

/-- In turn, a guess fails and a caller who knows the code opens a session. -/
theorem withstands_guessing_in_turn : ∃ history p, Run ((guessCalls id).interleaved (Fin 9)) history p ∧
    history.countP (opensSession 0) = 1 ∧ WithstandsGuessing id history := by
  have hany : ((guessCalls id).execute nineCalls ([0, 0, 0, 1, 1, 7, 7, 8].map fun i => (i, guessMoment))).any
      (fun log => decide (log.1.countP (opensSession 0) = 1) && log.1.all fun e =>
        decide (FindsCode id e.before.shared (e.before.call e.label.1) e.label.2)) = true := by decide +kernel
  obtain ⟨log, hlog, hfinds⟩ := (Option.any_eq_true _ _).mp hany
  rw [Bool.and_eq_true, decide_eq_true_eq, List.all_eq_true] at hfinds
  have hrun := Calls.run_of_execute nineCalls_init hlog
  exact ⟨_, _, hrun, hfinds.1, withstands_guessing hrun fun e he => of_decide_eq_true (hfinds.2 e he)⟩

/-- Eight calls read the invitation before any of them saves it. -/
theorem guesses_of_late_saves : ∃ history p, Run ((guessCalls id).interleaved (Fin 9)) history p ∧
    history.countP (isIncorrect id 0) = 6 ∧ history.countP (opensSession 0) = 2 ∧ ¬ WithstandsGuessing id history := by
  have hany : ((guessCalls id).execute nineCalls
      ([0, 0, 0, 1, 2, 3, 4, 5, 6, 7, 8, 1, 2, 3, 4, 5, 6, 7, 8].map fun i => (i, guessMoment))).any
      (fun log => decide (log.1.countP (isIncorrect id 0) = 6) && decide (log.1.countP (opensSession 0) = 2)) = true := by
    decide +kernel
  obtain ⟨log, hlog, hcounts⟩ := (Option.any_eq_true _ _).mp hany
  rw [Bool.and_eq_true, decide_eq_true_eq, decide_eq_true_eq] at hcounts
  refine ⟨_, _, Calls.run_of_execute nineCalls_init hlog, hcounts.1, hcounts.2, fun h => ?_⟩
  have hbound := (h 0).1
  omega

end ComplianceHub.Ratings
