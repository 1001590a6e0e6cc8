import ComplianceHub.Ratings.Invitation

/-!
# The lifecycle of an invitation

* `Lifecycle` : in every state of a run each requester has at most one active invitation, and an invitation that has
  ended stays so and admits no one;
* `FindsCurrent` : the step saves an invitation as active only where its row still is, and issues one only where no
  other than those it has read is active;
* `RatingStep` : what a step does to the invitations;
* `lifecycle_iff_findsCurrent` : a run keeps the lifecycle exactly when each of its steps finds what it has read.
-/

namespace ComplianceHub.Ratings

open ComplianceHub.Lib

/-- Identifiers are given once. -/
structure Sound (db : RatingDb) : Prop where
  distinct : Distinct db
  below : ∀ row ∈ db.invitations, row.id < db.nextId

def Sole (db : RatingDb) : Prop :=
  ∀ row ∈ db.invitations, ∀ row' ∈ db.invitations, row.status = .active → row'.status = .active →
    row.requesterId = row'.requesterId → row = row'

/-- Any number of calls, over a table whose requesters have at most one active invitation each. -/
def ratingCalls (hash : String → String) : Calls RatingDb RatingCall Moment where
  init db := Sound db ∧ Sole db
  start := RatingCall.isStart
  step := ratingStep hash

/-! ## What is kept -/

def activeInvitations (db : RatingDb) (requesterId : Nat) : List RatingInvitation :=
  db.invitations.filter fun row => row.requesterId = requesterId && row.status = .active

/-- It has been completed or revoked, or is past its end. -/
def Retired (db : RatingDb) (id : Nat) : Prop := ∃ row ∈ db.invitations, row.id = id ∧ row.status ≠ .active

instance (db : RatingDb) (id : Nat) : Decidable (Retired db id) := by
  unfold Retired
  infer_instance

section
variable {ι : Type}

abbrev RatingTransition (ι : Type) := Transition (Pool ι RatingDb RatingCall) (ι × Moment)

/-- The states of a run, in their order. -/
def states (history : List (RatingTransition ι)) (p : Pool ι RatingDb RatingCall) : List (Pool ι RatingDb RatingCall) :=
  history.map Transition.before ++ [p]

variable (hash : String → String)

/-- The service would admit the holder of some token to a code, or of some session to the tickets. -/
def Admits (db : RatingDb) (id : Nat) : Prop :=
  ∃ now invitation, invitation.id = id ∧
    ((∃ rawToken, getActiveInvitationByToken hash db rawToken now = .active invitation) ∨
      ∃ sessionToken, getInvitationBySession hash db sessionToken now = .active invitation)

/-- In every state no requester has two active invitations, and what has ended admits no one; and it stays so. -/
structure Lifecycle (history : List (RatingTransition ι)) (p : Pool ι RatingDb RatingCall) : Prop where
  sole : ∀ a ∈ states history p, ∀ requesterId, (activeInvitations a.shared requesterId).length ≤ 1
  closed : ∀ a ∈ states history p, ∀ id, Retired a.shared id → ¬ Admits hash a.shared id
  final : (states history p).Pairwise fun a b => ∀ id, Retired a.shared id → Retired b.shared id

end

/-- The entities a call has in memory. -/
def RatingCall.held : RatingCall → List RatingInvitation
  | .reissuing _ _ _ _ _ previous => previous
  | .mailing _ invitation | .opened invitation | .requesting invitation | .mailingCode invitation
  | .verifying invitation _ | .expiring invitation | .closingSession invitation _ | .inSession invitation _
  | .rating invitation _ | .rated invitation _ | .completing invitation => [invitation]
  | _ => []

/-- The step saves the invitation the call has in memory, and does not end it. -/
def savesActive (call : RatingCall) (m : Moment) : Bool :=
  match call with
  | .mailing _ _ => m.delivery = .sent
  | .opened invitation => m.accountAccess.isNone && invitation.lastAccessedAt.isNone
  | .requesting invitation =>
    m.accountAccess.isNone && !isCoolingDown invitation m.now &&
      (m.getUserById invitation.requesterId).any fun user =>
        user.active && user.role = .user && isRecipientEmail user invitation
  | .mailingCode _ => m.delivery ≠ .sent
  | .verifying invitation code =>
    m.accountAccess.isNone && isSixDigits code && invitation.otpHash.isSome && invitation.otpExpiresAt.isSome
  | .closingSession _ invitationExpired => !invitationExpired
  | _ => false

/-- What the call has read still holds of the active invitations. -/
def FindsCurrent (db : RatingDb) (call : RatingCall) (m : Moment) : Prop :=
  match call with
  | .reissuing _ recipient _ _ _ previous =>
    ∀ row ∈ db.invitations, row.requesterId = recipient.id → row.status = .active →
      row.id ∈ previous.map RatingInvitation.id
  | call =>
    savesActive call m = true →
      ∀ invitation ∈ call.held, ∃ row ∈ db.invitations, row.id = invitation.id ∧ row.status = .active

instance (db : RatingDb) (call : RatingCall) (m : Moment) : Decidable (FindsCurrent db call m) := by
  unfold FindsCurrent
  split <;> infer_instance

/-! ## What a step does -/

/-- An entity is a row of the table, as it may have been before. -/
def Names (db : RatingDb) (invitation : RatingInvitation) : Prop :=
  ∃ row ∈ db.invitations, row.id = invitation.id ∧ row.requesterId = invitation.requesterId

/-- The step of a call to a state of the table. -/
inductive RatingStep (db : RatingDb) (call : RatingCall) (m : Moment) : RatingDb → RatingCall → Prop
  | reads {db' : RatingDb} {call' : RatingCall} : db'.invitations = db.invitations → db'.nextId = db.nextId →
      FindsCurrent db call m →
      (∀ invitation ∈ call'.held, invitation.status = .active ∧ Names db invitation) → RatingStep db call m db' call'
  | saves {db' : RatingDb} {call' : RatingCall} {invitation : RatingInvitation} (saved : RatingInvitation) :
      call.held = [invitation] →
      saved.id = invitation.id → saved.requesterId = invitation.requesterId →
      (saved.status = .active ↔ savesActive call m = true) →
      (FindsCurrent db call m ↔ (savesActive call m = true →
        ∃ row ∈ db.invitations, row.id = invitation.id ∧ row.status = .active)) →
      db'.invitations = (db.save saved).invitations → db'.nextId = db.nextId →
      (∀ next ∈ call'.held, next = saved) → (call'.held ≠ [] → saved.status = .active) →
      RatingStep db call m db' call'
  | reissues {hash : String → String} {sending : Sending} {recipient : UserStub} {eligibleTickets : List RatedTicket}
      {rawToken : String} {now : Int} {previous : List RatingInvitation} :
      call = .reissuing sending recipient eligibleTickets rawToken now previous →
      RatingStep db call m (reissue hash db sending recipient eligibleTickets rawToken now previous).1
        (reissue hash db sending recipient eligibleTickets rawToken now previous).2

/-- What a call has in memory was active when it was read. -/
def Held (db : RatingDb) (call : RatingCall) : Prop :=
  ∀ invitation ∈ call.held, invitation.status = .active ∧ Names db invitation

variable {hash : String → String} {db : RatingDb} {call : RatingCall} {m : Moment}

theorem names_of_mem {invitation : RatingInvitation} (h : invitation ∈ db.invitations) : Names db invitation :=
  ⟨invitation, h, rfl, rfl⟩

/-- A step that changes no invitation, at a point where it does not save. -/
theorem RatingStep.idle {call' : RatingCall} (h : FindsCurrent db call m) (hheld : call'.held = []) :
    RatingStep db call m db call' := by
  refine .reads rfl rfl h fun invitation hinvitation => ?_
  rw [hheld] at hinvitation
  exact absurd hinvitation List.not_mem_nil

theorem Found.held_follow {found : Found} {expired : RatingInvitation → Bool → RatingCall}
    {next : RatingInvitation → RatingCall} (hexpired : ∀ invitation b, (expired invitation b).held = [invitation])
    (hnext : ∀ invitation, (next invitation).held = [invitation]) {invitation : RatingInvitation}
    (h : invitation ∈ (found.follow expired next).held) : found.entity = some invitation := by
  cases found with
  | refused failure => cases h
  | expired row invitationExpired =>
    rw [Found.follow, hexpired, List.mem_singleton] at h
    exact congrArg some h.symm
  | active row =>
    rw [Found.follow, hnext, List.mem_singleton] at h
    exact congrArg some h.symm

theorem ratingStep_byToken {rawToken : String} {next : RatingInvitation → RatingCall}
    (hnext : ∀ invitation, (next invitation).held = [invitation]) (h : FindsCurrent db call m) :
    RatingStep db call m db (byToken hash db rawToken m next) := by
  refine .reads rfl rfl h fun invitation hinvitation => ?_
  obtain ⟨hmem, hactive⟩ := getActiveInvitationByToken_found (Found.held_follow (fun _ _ => rfl) hnext hinvitation)
  exact ⟨hactive, names_of_mem hmem⟩

theorem ratingStep_bySession {sessionToken : Option String} {ratingItemId : Option Nat} (h : FindsCurrent db call m) :
    RatingStep db call m db (bySession hash db sessionToken m ratingItemId) := by
  refine .reads rfl rfl h fun invitation hinvitation => ?_
  obtain ⟨hmem, hactive⟩ :=
    getInvitationBySession_found (Found.held_follow (fun _ _ => rfl) (fun _ => rfl) hinvitation)
  exact ⟨hactive, names_of_mem hmem⟩

theorem held_nextRecipient (db : RatingDb) (sending : Sending) (requesterId : Nat) (m : Moment) :
    ∀ invitation ∈ (nextRecipient db sending requesterId m).held, invitation.status = .active ∧ Names db invitation := by
  intro invitation h
  unfold nextRecipient at h
  split at h
  · cases h
  · split_ifs at h
    · cases h
    · split at h
      · cases h
      · obtain ⟨hmem, hrow⟩ := List.mem_filter.mp h
        rw [Bool.and_eq_true, decide_eq_true_eq, decide_eq_true_eq] at hrow
        exact ⟨hrow.2, names_of_mem hmem⟩

/-- A step that saves the one invitation the call has in memory. -/
theorem RatingStep.save {db' : RatingDb} {call' : RatingCall} {invitation : RatingInvitation} (saved : RatingInvitation)
    (hheld : call.held = [invitation]) (hid : saved.id = invitation.id)
    (hrequester : saved.requesterId = invitation.requesterId)
    (hstatus : saved.status = .active ↔ savesActive call m = true)
    (hfinds : FindsCurrent db call m ↔ (savesActive call m = true →
      ∃ row ∈ db.invitations, row.id = invitation.id ∧ row.status = .active))
    (hdb : db' = db.save saved) (hend : call'.held = []) : RatingStep db call m db' call' := by
  subst hdb
  refine .saves saved hheld hid hrequester hstatus hfinds rfl rfl ?_ fun h => absurd hend h
  rw [hend]
  exact fun next hnext => absurd hnext List.not_mem_nil

theorem verificationFailed_row (invitation : RatingInvitation) :
    (verificationFailed invitation).id = invitation.id ∧
      (verificationFailed invitation).requesterId = invitation.requesterId ∧
      (verificationFailed invitation).status = invitation.status := by
  unfold verificationFailed
  split_ifs <;> exact ⟨rfl, rfl, rfl⟩

theorem delivered_row (invitation : RatingInvitation) (m : Moment) :
    (delivered invitation m).id = invitation.id ∧ (delivered invitation m).requesterId = invitation.requesterId := by
  unfold delivered
  split <;> exact ⟨rfl, rfl⟩

theorem delivered_status {invitation : RatingInvitation} (h : invitation.status = .active) (m : Moment) :
    (delivered invitation m).status = .active ↔ m.delivery = .sent := by
  unfold delivered
  split <;> simp [*]

section
variable {invitation : RatingInvitation} (hactive : invitation.status = .active)
include hactive

theorem ratingStep_getInvitationStatus :
    RatingStep db (.opened invitation) m (getInvitationStatus db invitation m).1 (getInvitationStatus db invitation m).2 := by
  unfold getInvitationStatus
  split
  · rename_i e haccess
    exact .idle (by simp [FindsCurrent, savesActive, haccess]) rfl
  · rename_i haccess
    dsimp only
    split_ifs with hopened
    · refine .save { invitation with lastAccessedAt := some m.now } rfl rfl rfl ?_
        (by simp [FindsCurrent, RatingCall.held]) rfl rfl
      simp [savesActive, haccess, hopened, hactive]
    · exact .idle (by simp [FindsCurrent, savesActive, hopened]) rfl

theorem ratingStep_requestVerificationCode :
    RatingStep db (.requesting invitation) m (requestVerificationCode hash db invitation m).1
      (requestVerificationCode hash db invitation m).2 := by
  unfold requestVerificationCode
  split
  · rename_i e haccess
    exact .idle (by simp [FindsCurrent, savesActive, haccess]) rfl
  · rename_i haccess
    split_ifs with hcooling
    · exact .idle (by simp [FindsCurrent, savesActive, hcooling]) rfl
    · split
      · rename_i huser
        exact .idle (by simp [FindsCurrent, savesActive, huser]) rfl
      · rename_i user huser
        split_ifs with hrefused hemail
        · refine .idle ?_ rfl
          rcases hrefused with hrefused | hrefused <;> simp [FindsCurrent, savesActive, huser, hrefused]
        · push Not at hrefused
          refine .saves (withCode hash db invitation m) rfl rfl rfl ?_ (by simp [FindsCurrent, RatingCall.held]) rfl rfl
            (fun next hnext => List.mem_singleton.mp hnext) fun _ => hactive
          simp [savesActive, haccess, hcooling, huser, hrefused, hemail, withCode, hactive]
        · refine .save (revokedAfterEmailChange invitation m.now) rfl rfl rfl ?_
            (by simp [FindsCurrent, RatingCall.held]) rfl rfl
          simp [savesActive, huser, hemail, revokedAfterEmailChange]

theorem ratingStep_codeMailed :
    RatingStep db (.mailingCode invitation) m (codeMailed db invitation m).1 (codeMailed db invitation m).2 := by
  unfold codeMailed
  split_ifs with hsent
  · exact .idle (by simp [FindsCurrent, savesActive, hsent]) rfl
  · refine .save (withoutCode invitation) rfl rfl rfl ?_ (by simp [FindsCurrent, RatingCall.held]) rfl rfl
    simp [savesActive, hsent, withoutCode, hactive]

theorem ratingStep_verifyCode (code : String) :
    RatingStep db (.verifying invitation code) m (verifyCode hash db invitation code m).1
      (verifyCode hash db invitation code m).2 := by
  unfold verifyCode
  split
  · rename_i e haccess
    exact .idle (by simp [FindsCurrent, savesActive, haccess]) rfl
  · rename_i haccess
    split
    · rename_i hdigits
      exact .idle (by simp [FindsCurrent, savesActive, hdigits]) rfl
    · rename_i hdigits
      split
      · rename_i issued otpExpiresAt hissued hexpires
        have hsaves : savesActive (.verifying invitation code) m = true := by
          simp [savesActive, haccess, not_not.mp hdigits, hissued, hexpires]
        split
        · exact .save (withoutCode invitation) rfl rfl rfl (iff_of_true hactive hsaves)
            (by simp [FindsCurrent, RatingCall.held]) rfl rfl
        · split
          · obtain ⟨hid, hrequester, hstatus⟩ := verificationFailed_row invitation
            exact .save (verificationFailed invitation) rfl hid hrequester
              (iff_of_true (hstatus.trans hactive) hsaves) (by simp [FindsCurrent, RatingCall.held]) rfl rfl
          · exact .save (recipientVerified hash invitation m) rfl rfl rfl (iff_of_true hactive hsaves)
              (by simp [FindsCurrent, RatingCall.held]) rfl rfl
      · rename_i hno
        refine .idle ?_ rfl
        intro hsaves
        simp only [savesActive, Bool.and_eq_true, Option.isSome_iff_exists] at hsaves
        obtain ⟨⟨-, issued, hissued⟩, otpExpiresAt, hexpires⟩ := hsaves
        exact absurd hexpires (hno issued otpExpiresAt hissued)

theorem ratingStep_closingSession (invitationExpired : Bool) {call' : RatingCall} (hend : call'.held = []) :
    RatingStep db (.closingSession invitation invitationExpired) m (db.save (sessionClosed invitation invitationExpired))
      call' := by
  refine .save (sessionClosed invitation invitationExpired) rfl rfl rfl ?_ (by simp [FindsCurrent, RatingCall.held]) rfl
    hend
  cases invitationExpired <;> simp [savesActive, sessionClosed, hactive]

end

theorem ratingStep_inSession {invitation : RatingInvitation} (hL : Held db (.inSession invitation none))
    (ratingItemId : Option Nat) :
    RatingStep db (.inSession invitation ratingItemId) m (inSession db invitation ratingItemId m).1
      (inSession db invitation ratingItemId m).2 := by
  unfold inSession
  split
  · exact .idle (by intro h; cases h) rfl
  · split_ifs
    · refine .save (revokedInSession invitation m.now) rfl rfl rfl ?_ (by simp [FindsCurrent, RatingCall.held]) rfl rfl
      simp [savesActive, revokedInSession]
    · split
      · exact .idle (by intro h; cases h) rfl
      · exact .idle (by intro h; cases h) rfl
      · exact .reads rfl rfl (by intro h; cases h) hL

theorem ratingStep_submitRating {invitation : RatingInvitation} {ratingItemId : Nat}
    (hL : Held db (.rating invitation ratingItemId)) :
    RatingStep db (.rating invitation ratingItemId) m db (submitRating db invitation ratingItemId m) := by
  unfold submitRating
  split
  · exact .idle (by intro h; cases h) rfl
  · split
    · exact .idle (by intro h; cases h) rfl
    · split_ifs
      · exact .idle (by intro h; cases h) rfl
      · exact .idle (by intro h; cases h) rfl
      · split
        · exact .idle (by intro h; cases h) rfl
        · exact .reads rfl rfl (by intro h; cases h) hL

theorem ratingStep_rated {invitation : RatingInvitation} {link : RatingInvitationTicket}
    (hL : Held db (.rated invitation link)) :
    RatingStep db (.rated invitation link) m (rated db invitation link m).1 (rated db invitation link m).2 := by
  refine .reads rfl rfl (by intro h; cases h) fun next hnext => ?_
  unfold rated at hnext
  dsimp only at hnext
  split_ifs at hnext
  · cases hnext
  · exact hL next hnext

theorem ratingStep_cases {r : RatingDb × RatingCall} (h : ratingStep hash db call m = some r) (hL : Held db call) :
    RatingStep db call m r.1 r.2 := by
  cases call with
  | sendInvitations requesterIds actorId =>
    cases h
    refine .idle (by intro h; cases h) ?_
    unfold sendInvitations
    dsimp only
    split_ifs <;> rfl
  | recipients sending =>
    obtain ⟨actorId, users, results, _ | ⟨requesterId, rest⟩⟩ := sending
    · cases h
      exact .idle (by intro h; cases h) rfl
    · cases h
      exact .reads rfl rfl (by intro h; cases h) (held_nextRecipient db _ requesterId m)
  | reissuing sending recipient eligibleTickets rawToken now previous =>
    cases h
    exact .reissues rfl
  | mailing sending invitation =>
    have hactive := (hL invitation (List.mem_singleton_self _)).1
    obtain ⟨hid, hrequester⟩ := delivered_row invitation m
    cases h
    refine .save (delivered invitation m) rfl hid hrequester ?_ (by simp [FindsCurrent, RatingCall.held]) rfl rfl
    rw [delivered_status hactive, savesActive, decide_eq_true_eq]
  | getInvitationStatus rawToken =>
    cases h
    exact ratingStep_byToken (fun _ => rfl) (by intro h; cases h)
  | opened invitation =>
    cases h
    exact ratingStep_getInvitationStatus (hL invitation (List.mem_singleton_self _)).1
  | requestVerificationCode rawToken =>
    cases h
    exact ratingStep_byToken (fun _ => rfl) (by intro h; cases h)
  | requesting invitation =>
    cases h
    exact ratingStep_requestVerificationCode (hL invitation (List.mem_singleton_self _)).1
  | mailingCode invitation =>
    cases h
    exact ratingStep_codeMailed (hL invitation (List.mem_singleton_self _)).1
  | verifyCode rawToken code =>
    cases h
    exact ratingStep_byToken (fun _ => rfl) (by intro h; cases h)
  | verifying invitation code =>
    cases h
    exact ratingStep_verifyCode (hL invitation (List.mem_singleton_self _)).1 code
  | expiring invitation =>
    cases h
    refine .save (expired invitation) rfl rfl rfl ?_ (by simp [FindsCurrent, RatingCall.held]) rfl rfl
    simp [savesActive, expired]
  | getSessionTickets sessionToken =>
    cases h
    exact ratingStep_bySession (by intro h; cases h)
  | submitRating sessionToken ratingItemId =>
    cases h
    exact ratingStep_bySession (by intro h; cases h)
  | closingSession invitation invitationExpired =>
    cases h
    exact ratingStep_closingSession (hL invitation (List.mem_singleton_self _)).1 invitationExpired rfl
  | inSession invitation ratingItemId =>
    cases h
    exact ratingStep_inSession hL ratingItemId
  | rating invitation ratingItemId =>
    cases h
    exact ratingStep_submitRating hL
  | rated invitation link =>
    cases h
    exact ratingStep_rated hL
  | completing invitation =>
    cases h
    refine .save (completed invitation m.now) rfl rfl rfl ?_ (by simp [FindsCurrent, RatingCall.held]) rfl rfl
    simp [savesActive, completed]
  | returned answer => cases h
  | failed failure => cases h

/-! ## What every step keeps -/

variable {invitation saved : RatingInvitation}

theorem Sound.save (h : Sound db) (hsaved : Names db saved) : Sound (db.save saved) := by
  refine ⟨h.distinct.save saved, fun row hrow => ?_⟩
  rw [save_nextId]
  rcases mem_save hrow with rfl | ⟨hrow, -⟩
  · obtain ⟨old, hold, hid, -⟩ := hsaved
    rw [← hid]
    exact h.below old hold
  · exact h.below row hrow

theorem Names.save (h : Names db invitation) (hdb : Distinct db) (hsaved : Names db saved) :
    Names (db.save saved) invitation := by
  obtain ⟨row, hrow, hid, hrequester⟩ := h
  by_cases heq : row.id = saved.id
  · obtain ⟨old, hold, holdid, holdrequester⟩ := hsaved
    have hsame : old = row := hdb.eq hold hrow (holdid.trans heq.symm)
    subst hsame
    exact ⟨saved, save_mem db saved, heq.symm.trans hid, holdrequester.symm.trans hrequester⟩
  · exact ⟨row, save_keeps hrow heq, hid, hrequester⟩

theorem revokePrevious_cons (db : RatingDb) (existing : RatingInvitation) (rest : List RatingInvitation) (now : Int) :
    revokePrevious db (existing :: rest) now = revokePrevious (db.save (revokedByResend existing now)) rest now := rfl

section
variable {previous : List RatingInvitation} {now : Int}

@[simp] theorem revokePrevious_nextId (db : RatingDb) (previous : List RatingInvitation) (now : Int) :
    (revokePrevious db previous now).nextId = db.nextId := by
  induction previous generalizing db with
  | nil => rfl
  | cons existing rest ih =>
    rw [revokePrevious_cons, ih]
    rfl

theorem sound_revokePrevious (h : Sound db) (now : Int) (hprevious : ∀ existing ∈ previous, Names db existing) :
    Sound (revokePrevious db previous now) ∧
      ∀ invitation, Names db invitation → Names (revokePrevious db previous now) invitation := by
  induction previous generalizing db with
  | nil => exact ⟨h, fun _ hnames => hnames⟩
  | cons existing rest ih =>
    have hfirst : Names db (revokedByResend existing now) := hprevious existing List.mem_cons_self
    obtain ⟨hsound, hnames⟩ := ih (h.save hfirst) fun other hother =>
      (hprevious other (List.mem_cons_of_mem _ hother)).save h.distinct hfirst
    rw [revokePrevious_cons]
    exact ⟨hsound, fun invitation hinvitation => hnames invitation (hinvitation.save h.distinct hfirst)⟩

theorem mem_revokePrevious {row : RatingInvitation} (h : row ∈ (revokePrevious db previous now).invitations) :
    row.status = .revoked ∨ row ∈ db.invitations ∧ row.id ∉ previous.map RatingInvitation.id := by
  induction previous generalizing db with
  | nil => exact .inr ⟨h, List.not_mem_nil⟩
  | cons existing rest ih =>
    rw [revokePrevious_cons] at h
    rcases ih h with hrevoked | ⟨hrow, hrest⟩
    · exact .inl hrevoked
    · rcases mem_save hrow with rfl | ⟨hrow, hid⟩
      · exact .inl rfl
      · refine .inr ⟨hrow, ?_⟩
        rw [List.map_cons, List.mem_cons, not_or]
        exact ⟨hid, hrest⟩

theorem revokePrevious_keeps {row : RatingInvitation} (h : row ∈ db.invitations)
    (hid : row.id ∉ previous.map RatingInvitation.id) : row ∈ (revokePrevious db previous now).invitations := by
  induction previous generalizing db with
  | nil => exact h
  | cons existing rest ih =>
    rw [List.map_cons, List.mem_cons, not_or] at hid
    rw [revokePrevious_cons]
    exact ih (save_keeps h hid.1) hid.2

end

section
variable {sending : Sending} {recipient : UserStub} {eligibleTickets : List RatedTicket} {rawToken : String} {now : Int}
  {previous : List RatingInvitation}

/-- The rows of a table in which an invitation has been issued. -/
theorem reissue_invitations (hdb : Sound (revokePrevious db previous now)) :
    (reissue hash db sending recipient eligibleTickets rawToken now previous).1.invitations =
      (revokePrevious db previous now).invitations ++
        [created hash (revokePrevious db previous now).nextId recipient sending.actorId rawToken now] := by
  unfold reissue
  rw [link_invitations]
  refine if_neg fun hknown => ?_
  obtain ⟨row, hrow, hid⟩ := List.any_eq_true.mp hknown
  exact absurd (of_decide_eq_true hid) (Nat.ne_of_lt (hdb.below row hrow))

theorem nextId_reissue :
    db.nextId < (reissue hash db sending recipient eligibleTickets rawToken now previous).1.nextId := by
  refine Nat.lt_of_lt_of_le ?_ (nextId_le_link _ _ _)
  show db.nextId < (revokePrevious db previous now).nextId + 1
  rw [revokePrevious_nextId]
  exact Nat.lt_succ_self _

theorem sound_reissue (h : Sound db) (hprevious : ∀ existing ∈ previous, Names db existing) :
    Sound (reissue hash db sending recipient eligibleTickets rawToken now previous).1 := by
  obtain ⟨hsound, -⟩ := sound_revokePrevious h now hprevious
  have hrows : (reissue hash db sending recipient eligibleTickets rawToken now previous).1.invitations = _ :=
    reissue_invitations hsound
  have hnext : db.nextId < (reissue hash db sending recipient eligibleTickets rawToken now previous).1.nextId :=
    nextId_reissue
  have hsame : (revokePrevious db previous now).nextId = db.nextId := revokePrevious_nextId db previous now
  constructor
  · rw [Distinct, hrows, List.map_append, List.map_singleton]
    refine List.Nodup.append hsound.distinct (List.nodup_singleton _) ?_
    intro id hid hid'
    obtain ⟨row, hrow, rfl⟩ := List.mem_map.mp hid
    rw [List.mem_singleton] at hid'
    exact absurd hid' (Nat.ne_of_lt (hsound.below row hrow))
  · intro row hrow
    rw [hrows] at hrow
    rcases List.mem_append.mp hrow with hrow | hrow
    · have hlt := hsound.below row hrow
      omega
    · rw [List.mem_singleton] at hrow
      subst hrow
      show (revokePrevious db previous now).nextId < _
      omega

theorem names_reissue (h : Sound db) (hprevious : ∀ existing ∈ previous, Names db existing)
    (hinvitation : Names db invitation) :
    Names (reissue hash db sending recipient eligibleTickets rawToken now previous).1 invitation := by
  obtain ⟨hsound, hnames⟩ := sound_revokePrevious h now hprevious
  obtain ⟨row, hrow, hrest⟩ := hnames invitation hinvitation
  refine ⟨row, ?_, hrest⟩
  rw [reissue_invitations hsound]
  exact List.mem_append_left _ hrow

end

/-- A step keeps the identifiers, what is in memory of the call that takes it, and what is in memory of the others. -/
theorem RatingStep.sound {db' : RatingDb} {call' : RatingCall} (h : RatingStep db call m db' call') (hdb : Sound db)
    (hL : Held db call) :
    Sound db' ∧ Held db' call' ∧ ∀ invitation, Names db invitation → Names db' invitation := by
  cases h with
  | reads hrows hnext hfinds hheld =>
    have hnames : ∀ invitation, Names db invitation → Names db' invitation := by
      intro invitation hinvitation
      rwa [Names, hrows]
    refine ⟨⟨?_, ?_⟩, fun next hnext' => ?_, hnames⟩
    · rw [Distinct, hrows]
      exact hdb.distinct
    · rw [hrows, hnext]
      exact hdb.below
    · obtain ⟨hactive, hinvitation⟩ := hheld next hnext'
      exact ⟨hactive, hnames next hinvitation⟩
  | @saves _ _ invitation saved hcall hid hrequester hstatus hfinds hrows hnext hnew hactive =>
    have hinvitation : Names db invitation := (hL invitation (by rw [hcall]; exact List.mem_singleton_self _)).2
    have hsaved : Names db saved := by
      rwa [Names, hid, hrequester]
    have hafter := hdb.save hsaved
    refine ⟨⟨?_, ?_⟩, fun next hnext' => ?_, fun other hother => ?_⟩
    · rw [Distinct, hrows]
      exact hafter.distinct
    · rw [hrows, hnext]
      exact hafter.below
    · obtain rfl := hnew next hnext'
      refine ⟨hactive (List.ne_nil_of_mem hnext'), next, ?_, rfl, rfl⟩
      rw [hrows]
      exact save_mem db next
    · rw [Names, hrows]
      exact hother.save hdb.distinct hsaved
  | @reissues hash sending recipient eligibleTickets rawToken now previous hcall =>
    subst hcall
    have hprevious : ∀ existing ∈ previous, Names db existing := fun existing hexisting => (hL existing hexisting).2
    refine ⟨sound_reissue hdb hprevious, fun next hnext => ?_, fun other hother => names_reissue hdb hprevious hother⟩
    obtain rfl := List.mem_singleton.mp hnext
    refine ⟨rfl, names_of_mem ?_⟩
    rw [reissue_invitations (sound_revokePrevious hdb now hprevious).1]
    exact List.mem_append_right _ (List.mem_singleton_self _)

/-! ## What a step that finds what it has read keeps -/

/-- A save keeps the lifecycle exactly when it finds active the row it leaves active. -/
theorem save_keeps_iff (hdb : Distinct db) (hsole : Sole db) (hsaved : Names db saved) :
    (saved.status = .active → ∃ row ∈ db.invitations, row.id = saved.id ∧ row.status = .active) ↔
      Sole (db.save saved) ∧ ∀ id, Retired db id → Retired (db.save saved) id := by
  obtain ⟨old, hold, holdid, holdrequester⟩ := hsaved
  constructor
  · intro hfinds
    have hcurrent : saved.status = .active → old.status = .active := by
      intro hactive
      obtain ⟨row, hrow, hid, hstatus⟩ := hfinds hactive
      obtain rfl := hdb.eq hold hrow (holdid.trans hid.symm)
      exact hstatus
    -- a row beside the saved one would have been active beside the row it replaces
    have hbeside : ∀ row ∈ db.invitations, row.id ≠ saved.id → row.status = .active → saved.status = .active →
        row.requesterId ≠ saved.requesterId := by
      intro row hrow hid hrow' hactive hrequester
      have hsame := hsole row hrow old hold hrow' (hcurrent hactive) (hrequester.trans holdrequester.symm)
      subst hsame
      exact hid holdid
    refine ⟨?_, ?_⟩
    · intro row hrow row' hrow' hstatus hstatus' hrequester
      rcases mem_save hrow with heq | ⟨hold, hid⟩
      · rcases mem_save hrow' with heq' | ⟨hold', hid'⟩
        · rw [heq, heq']
        · rw [heq] at hstatus hrequester
          exact absurd hrequester.symm (hbeside row' hold' hid' hstatus' hstatus)
      · rcases mem_save hrow' with heq' | ⟨hold', hid'⟩
        · rw [heq'] at hstatus' hrequester
          exact absurd hrequester (hbeside row hold hid hstatus hstatus')
        · exact hsole row hold row' hold' hstatus hstatus' hrequester
    · rintro id ⟨row, hrow, hid, hended⟩
      by_cases heq : row.id = saved.id
      · refine ⟨saved, save_mem db saved, heq.symm.trans hid, fun hactive => hended ?_⟩
        obtain rfl := hdb.eq hold hrow (holdid.trans heq.symm)
        exact hcurrent hactive
      · exact ⟨row, save_keeps hrow heq, hid, hended⟩
  · rintro ⟨-, hretired⟩ hactive
    refine ⟨old, hold, holdid, ?_⟩
    by_contra hended
    obtain ⟨row, hrow, hid, hstatus⟩ := hretired saved.id ⟨old, hold, holdid, hended⟩
    obtain rfl := (hdb.save saved).eq hrow (save_mem db saved) hid
    exact hstatus hactive

section
variable {sending : Sending} {recipient : UserStub} {eligibleTickets : List RatedTicket} {rawToken : String} {now : Int}
  {previous : List RatingInvitation}

/-- An invitation is issued beside no other exactly when its transaction has read all that are active. -/
theorem reissue_keeps_iff (hdb : Sound db) (hsole : Sole db) (hprevious : ∀ existing ∈ previous, Names db existing) :
    FindsCurrent db (.reissuing sending recipient eligibleTickets rawToken now previous) m ↔
      Sole (reissue hash db sending recipient eligibleTickets rawToken now previous).1 ∧
        ∀ id, Retired db id → Retired (reissue hash db sending recipient eligibleTickets rawToken now previous).1 id := by
  obtain ⟨hsound, hnames⟩ := sound_revokePrevious hdb now hprevious
  have hrows : (reissue hash db sending recipient eligibleTickets rawToken now previous).1.invitations = _ :=
    reissue_invitations hsound
  constructor
  · intro hfinds
    have hold : ∀ row ∈ (revokePrevious db previous now).invitations, row.status = .active →
        row ∈ db.invitations ∧ row.requesterId ≠ recipient.id := by
      intro row hrow hactive
      rcases mem_revokePrevious hrow with hrevoked | ⟨hrow, hid⟩
      · rw [hactive] at hrevoked
        cases hrevoked
      · exact ⟨hrow, fun hrequester => hid (hfinds row hrow hrequester hactive)⟩
    refine ⟨?_, ?_⟩
    · intro row hrow row' hrow' hstatus hstatus' hrequester
      rw [hrows] at hrow hrow'
      rcases List.mem_append.mp hrow with hrow | hrow
      · rcases List.mem_append.mp hrow' with hrow' | hrow'
        · exact hsole row (hold row hrow hstatus).1 row' (hold row' hrow' hstatus').1 hstatus hstatus' hrequester
        · obtain rfl := List.mem_singleton.mp hrow'
          exact absurd hrequester (hold row hrow hstatus).2
      · obtain rfl := List.mem_singleton.mp hrow
        rcases List.mem_append.mp hrow' with hrow' | hrow'
        · exact absurd hrequester.symm (hold row' hrow' hstatus').2
        · exact (List.mem_singleton.mp hrow').symm
    · rintro id ⟨row, hrow, hid, hended⟩
      rw [Retired, hrows]
      by_cases hprev : row.id ∈ previous.map RatingInvitation.id
      · obtain ⟨after, hafter, hafterid, -⟩ := hnames row (names_of_mem hrow)
        refine ⟨after, List.mem_append_left _ hafter, hafterid.trans hid, ?_⟩
        rcases mem_revokePrevious hafter with hrevoked | ⟨-, hnot⟩
        · rw [hrevoked]
          exact RatingInvitationStatus.noConfusion
        · rw [hafterid] at hnot
          exact absurd hprev hnot
      · exact ⟨row, List.mem_append_left _ (revokePrevious_keeps hrow hprev), hid, hended⟩
  · rintro ⟨hafter, -⟩ row hrow hrequester hactive
    by_contra hnot
    have hkept : row ∈ (revokePrevious db previous now).invitations := revokePrevious_keeps hrow hnot
    have hnew := hafter row (by rw [hrows]; exact List.mem_append_left _ hkept)
      (created hash (revokePrevious db previous now).nextId recipient sending.actorId rawToken now)
      (by rw [hrows]; exact List.mem_append_right _ (List.mem_singleton_self _)) hactive rfl hrequester
    exact absurd (congrArg RatingInvitation.id hnew) (Nat.ne_of_lt (hsound.below row hkept))

end

theorem RatingStep.keeps_iff {db' : RatingDb} {call' : RatingCall} (h : RatingStep db call m db' call') (hdb : Sound db)
    (hL : Held db call) (hsole : Sole db) :
    FindsCurrent db call m ↔ Sole db' ∧ ∀ id, Retired db id → Retired db' id := by
  cases h with
  | reads hrows hnext hfinds hheld =>
    refine iff_of_true hfinds ⟨?_, fun id hid => ?_⟩
    · rwa [Sole, hrows]
    · rwa [Retired, hrows]
  | @saves _ _ invitation saved hcall hid hrequester hstatus hfinds hrows hnext hnew hactive =>
    have hinvitation : Names db invitation := (hL invitation (by rw [hcall]; exact List.mem_singleton_self _)).2
    have hsaved : Names db saved := by
      rwa [Names, hid, hrequester]
    rw [hfinds, ← hstatus, ← hid, save_keeps_iff hdb.distinct hsole hsaved]
    simp only [Sole, Retired, hrows]
  | reissues hcall =>
    subst hcall
    exact reissue_keeps_iff hdb hsole fun existing hexisting => (hL existing hexisting).2

/-! ## Runs -/

theorem length_le_one_iff {α : Type} {rows : List α} (h : rows.Nodup) :
    rows.length ≤ 1 ↔ ∀ row ∈ rows, ∀ row' ∈ rows, row = row' := by
  match rows with
  | [] => simp
  | [_] => simp
  | first :: second :: rest =>
    refine iff_of_false (by simp) fun hsame => ?_
    rw [hsame first List.mem_cons_self second (List.mem_cons_of_mem _ List.mem_cons_self)] at h
    exact (List.nodup_cons.mp h).1 List.mem_cons_self

theorem length_active_le_one_iff (hdb : Distinct db) :
    (∀ requesterId, (activeInvitations db requesterId).length ≤ 1) ↔ Sole db := by
  have hmem : ∀ requesterId row, row ∈ activeInvitations db requesterId ↔
      row ∈ db.invitations ∧ row.requesterId = requesterId ∧ row.status = .active := by
    intro requesterId row
    rw [activeInvitations, List.mem_filter, Bool.and_eq_true, decide_eq_true_eq, decide_eq_true_eq]
  have hnodup : ∀ requesterId, (activeInvitations db requesterId).Nodup := fun _ => hdb.of_map.filter _
  constructor
  · intro h row hrow row' hrow' hstatus hstatus' hrequester
    exact (length_le_one_iff (hnodup row'.requesterId)).mp (h row'.requesterId)
      row ((hmem _ _).mpr ⟨hrow, hrequester, hstatus⟩) row' ((hmem _ _).mpr ⟨hrow', rfl, hstatus'⟩)
  · intro h requesterId
    rw [length_le_one_iff (hnodup requesterId)]
    intro row hrow row' hrow'
    obtain ⟨hrow, hrequester, hstatus⟩ := (hmem _ _).mp hrow
    obtain ⟨hrow', hrequester', hstatus'⟩ := (hmem _ _).mp hrow'
    exact h row hrow row' hrow' hstatus hstatus' (hrequester.trans hrequester'.symm)

theorem Sound.closed (h : Sound db) {id : Nat} (hid : Retired db id) : ¬ Admits hash db id := by
  obtain ⟨row, hrow, rfl, hended⟩ := hid
  rintro ⟨now, invitation, hsame, hfound⟩
  have hactive : invitation ∈ db.invitations ∧ invitation.status = .active := by
    rcases hfound with ⟨rawToken, hfound⟩ | ⟨sessionToken, hfound⟩
    · exact getActiveInvitationByToken_found (by rw [hfound]; rfl)
    · exact getInvitationBySession_found (by rw [hfound]; rfl)
  obtain rfl := h.distinct.eq hactive.1 hrow hsame
  exact hended hactive.2

section
variable {ι : Type} {history : List (RatingTransition ι)} {a b p : Pool ι RatingDb RatingCall} {l : ι × Moment}

theorem states_concat : states (history ++ [⟨a, l, b⟩]) b = states history a ++ [b] := by
  rw [states, List.map_append]
  rfl

theorem lifecycle_init (hp : Sound p.shared) (hsole : Sole p.shared) : Lifecycle hash ([] : List (RatingTransition ι)) p := by
  constructor
  · intro a ha
    obtain rfl := List.mem_singleton.mp ha
    exact (length_active_le_one_iff hp.distinct).mpr hsole
  · intro a ha id hid
    obtain rfl := List.mem_singleton.mp ha
    exact hp.closed hid
  · exact List.pairwise_singleton _ _

theorem Lifecycle.last (h : Lifecycle hash history p) (hp : Sound p.shared) : Sole p.shared :=
  (length_active_le_one_iff hp.distinct).mp (h.sole p (List.mem_append_right _ (List.mem_singleton_self _)))

theorem Lifecycle.retired (h : Lifecycle hash history p) {c : Pool ι RatingDb RatingCall} (hc : c ∈ states history p)
    {id : Nat} (hid : Retired c.shared id) : Retired p.shared id := by
  rcases List.mem_append.mp hc with hc | hc
  · exact (List.pairwise_append.mp h.final).2.2 c hc p (List.mem_singleton_self _) id hid
  · rwa [List.mem_singleton.mp hc] at hid

/-- One more step of a run that has kept the lifecycle. -/
theorem lifecycle_concat (hb : Sound b.shared) :
    Lifecycle hash (history ++ [⟨a, l, b⟩]) b ↔
      Lifecycle hash history a ∧ Sole b.shared ∧ ∀ id, Retired a.shared id → Retired b.shared id := by
  constructor
  · intro h
    have hlast := h.last hb
    obtain ⟨hsole, hclosed, hfinal⟩ := h
    rw [states_concat] at hsole hclosed hfinal
    obtain ⟨hbefore, -, hnext⟩ := List.pairwise_append.mp hfinal
    refine ⟨⟨fun c hc => hsole c (List.mem_append_left _ hc), fun c hc => hclosed c (List.mem_append_left _ hc), hbefore⟩,
      hlast, fun id hid => ?_⟩
    exact hnext a (List.mem_append_right _ (List.mem_singleton_self _)) b (List.mem_singleton_self _) id hid
  · rintro ⟨h, hsole, hretired⟩
    constructor
    · intro c hc
      rw [states_concat] at hc
      rcases List.mem_append.mp hc with hc | hc
      · exact h.sole c hc
      · obtain rfl := List.mem_singleton.mp hc
        exact (length_active_le_one_iff hb.distinct).mpr hsole
    · intro c hc id hid
      rw [states_concat] at hc
      rcases List.mem_append.mp hc with hc | hc
      · exact h.closed c hc id hid
      · obtain rfl := List.mem_singleton.mp hc
        exact hb.closed hid
    · rw [states_concat]
      refine List.pairwise_append.mpr ⟨h.final, List.pairwise_singleton _ _, fun c hc d hd id hid => ?_⟩
      obtain rfl := List.mem_singleton.mp hd
      exact hretired id (h.retired hc hid)

variable [DecidableEq ι]

theorem RatingCall.held_of_isStart (h : call.isStart) : call.held = [] := by
  cases call <;> first | rfl | cases h

/-- In every run the identifiers are given once, and what is in memory was active when it was read. -/
theorem sound_of_run (h : Run ((ratingCalls hash).interleaved ι) history p) :
    Sound p.shared ∧ ∀ i, Held p.shared (p.call i) := by
  refine Calls.always (S := Sound) (L := fun _ => Held) (P := fun _ => True) ?_ ?_ ?_ ?_ h fun _ _ => trivial
  · exact fun db hdb => hdb.1
  · intro i db call hdb hstart invitation hinvitation
    rw [RatingCall.held_of_isStart hstart] at hinvitation
    exact absurd hinvitation List.not_mem_nil
  · intro p i m r hp hi hr _
    obtain ⟨hsound, hheld, -⟩ := (ratingStep_cases hr hi).sound hp hi
    exact ⟨hsound, hheld⟩
  · intro p i m r j hj hp hi hother hr _
    obtain ⟨-, -, hnames⟩ := (ratingStep_cases hr hi).sound hp hi
    exact fun invitation hinvitation =>
      ⟨(hother invitation hinvitation).1, hnames invitation (hother invitation hinvitation).2⟩

/-- A run keeps the lifecycle exactly when each of its steps finds what its call has read. -/
theorem lifecycle_iff_findsCurrent (h : Run ((ratingCalls hash).interleaved ι) history p) :
    Lifecycle hash history p ↔
      ∀ e ∈ history, FindsCurrent e.before.shared (e.before.call e.label.1) e.label.2 := by
  induction h with
  | init hp => exact iff_of_true (lifecycle_init hp.1.1 hp.1.2) (by simp)
  | @step history a b l hrun hs ih =>
    obtain ⟨ha, hheld⟩ := sound_of_run hrun
    have hb := (sound_of_run (hrun.step hs)).1
    obtain ⟨r, hr, rfl⟩ := hs
    have hkeeps : Sole a.shared → (FindsCurrent a.shared (a.call l.1) l.2 ↔
        Sole r.1 ∧ ∀ id, Retired a.shared id → Retired r.1 id) :=
      (ratingStep_cases hr (hheld l.1)).keeps_iff ha (hheld l.1)
    rw [lifecycle_concat hb, List.forall_mem_append, List.forall_mem_singleton, ← ih]
    exact and_congr_right fun hlife => (hkeeps (hlife.last ha)).symm

end

/-! ## Two senders -/

/-- A requester with one ticket to rate, and two staff members who send. -/
def twoSenders : Pool (Fin 2) RatingDb RatingCall where
  shared := {}
  call i := .sendInvitations [7] i.val

def sendMoment : Moment :=
  { now := 0, users := [⟨7, "r@example.com", .user, true⟩], tickets := [⟨1, 7, .resolved, none⟩] }

theorem twoSenders_init : ((ratingCalls id).interleaved (Fin 2)).init twoSenders := by
  refine ⟨⟨⟨List.nodup_nil, fun row hrow => ?_⟩, fun row hrow => ?_⟩, fun i => trivial⟩
  · exact absurd hrow List.not_mem_nil
  · exact absurd hrow List.not_mem_nil

/-- One after the other, each waiting for its mail. -/
theorem lifecycle_of_senders_in_turn : ∃ history p,
    Run ((ratingCalls id).interleaved (Fin 2)) history p ∧ Retired p.shared 0 ∧ Lifecycle id history p := by
  have hany : ((ratingCalls id).execute twoSenders ([0, 0, 0, 0, 1, 1, 1, 1].map fun i => (i, sendMoment))).any
      (fun log => decide (Retired log.2.shared 0) && log.1.all fun e =>
        decide (FindsCurrent e.before.shared (e.before.call e.label.1) e.label.2)) = true := by decide +kernel
  obtain ⟨log, hlog, hfinds⟩ := (Option.any_eq_true _ _).mp hany
  rw [Bool.and_eq_true, decide_eq_true_eq, List.all_eq_true] at hfinds
  have hrun := Calls.run_of_execute twoSenders_init hlog
  exact ⟨_, _, hrun, hfinds.1, (lifecycle_iff_findsCurrent hrun).mpr fun e he => of_decide_eq_true (hfinds.2 e he)⟩

/-- The second sender revokes the invitation of the first, whose save after its mail makes it active again. -/
theorem revoked_invitation_becomes_active : ∃ history p, Run ((ratingCalls id).interleaved (Fin 2)) history p ∧
    (activeInvitations p.shared 7).length = 2 ∧ (∃ a ∈ states history p, Retired a.shared 0) ∧ ¬ Retired p.shared 0 ∧
      ¬ Lifecycle id history p := by
  have hany : ((ratingCalls id).execute twoSenders ([0, 0, 0, 1, 1, 1, 0].map fun i => (i, sendMoment))).any
      (fun log => decide ((activeInvitations log.2.shared 7).length = 2) &&
        ((states log.1 log.2).any (fun a => decide (Retired a.shared 0)) && decide (¬ Retired log.2.shared 0))) = true := by
    decide +kernel
  obtain ⟨log, hlog, hend⟩ := (Option.any_eq_true _ _).mp hany
  rw [Bool.and_eq_true, Bool.and_eq_true, decide_eq_true_eq, decide_eq_true_eq, List.any_eq_true] at hend
  obtain ⟨hactive, ⟨a, ha, hid⟩, hagain⟩ := hend
  have hid := of_decide_eq_true hid
  exact ⟨_, _, Calls.run_of_execute twoSenders_init hlog, hactive, ⟨a, ha, hid⟩, hagain, fun hlife =>
    hagain (hlife.retired ha hid)⟩

end ComplianceHub.Ratings
