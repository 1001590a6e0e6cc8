import ComplianceHub.Lib.Calls
import ComplianceHub.Tickets.Types
import Mathlib.Data.List.Nodup

/-!
# Rating invitations

* `RatingInvitation`, `RatingInvitationTicket`, `RatingDb` : the tables of the service;
* `Moment` : what a step learns from the clock, the random source, the ticket table and the other services;
* `RatingCall` : `sendInvitations`, `getInvitationStatus`, `requestVerificationCode`, `verifyCode`, `getSessionTickets`
  and `submitRating`, each in the steps between which other calls run;
* `ratingStep` : a step. A call reads an invitation in one step and saves the whole entity in a later one, as it was read
  but for its own changes.

The reads of `usersHttpClient` and of the mail service touch no table, so they belong to the save that follows them.
-/

namespace ComplianceHub.Ratings

open ComplianceHub.Lib
open ComplianceHub.Tickets (Role)

def INVITATION_LIFETIME_MS : Int := 7 * 24 * 60 * 60 * 1000
def OTP_LIFETIME_MS : Int := 10 * 60 * 1000
def OTP_RESEND_COOLDOWN_MS : Int := 60 * 1000
def RATING_SESSION_LIFETIME_MS : Int := 30 * 60 * 1000

/-! ## Tables -/

inductive RatingInvitationStatus where
  | active
  | completed
  | revoked
  | expired
deriving DecidableEq, Repr

inductive RatingInvitationDeliveryStatus where
  | pending
  | sent
  | failed
  | suppressed
deriving DecidableEq, Repr

/-- The hash of an issued code. The serial is not in the column and no step reads it: it tells issued codes apart. -/
structure IssuedCode where
  digest : String
  serial : Nat
deriving DecidableEq, Repr

/-- A row of `rating_access_invitations`. -/
structure RatingInvitation where
  id : Nat
  requesterId : Nat
  recipientEmail : String
  tokenHash : String
  status : RatingInvitationStatus
  createdById : Nat
  expiresAt : Int
  revokedAt : Option Int := none
  completedAt : Option Int := none
  lastAccessedAt : Option Int := none
  verifiedAt : Option Int := none
  otpHash : Option IssuedCode := none
  otpExpiresAt : Option Int := none
  otpAttempts : Nat := 0
  otpSentAt : Option Int := none
  sessionHash : Option String := none
  sessionExpiresAt : Option Int := none
  emailDeliveryStatus : RatingInvitationDeliveryStatus
  emailSentAt : Option Int := none
deriving DecidableEq, Repr

/-- A row of `rating_access_invitation_tickets`. -/
structure RatingInvitationTicket where
  id : Nat
  invitationId : Nat
  ticketId : Nat
  ratedAt : Option Int := none
deriving DecidableEq, Repr

structure RatingDb where
  invitations : List RatingInvitation := []
  links : List RatingInvitationTicket := []
  /-- Every identifier given so far is below it. -/
  nextId : Nat := 0
  /-- The codes issued so far. -/
  issued : Nat := 0
deriving DecidableEq, Repr

/-- `invitationRepo.save`: every column of the row becomes the entity's. -/
def RatingDb.save (db : RatingDb) (invitation : RatingInvitation) : RatingDb :=
  { db with
    invitations :=
      if db.invitations.any fun row => row.id = invitation.id then
        db.invitations.map fun row => if row.id = invitation.id then invitation else row
      else db.invitations ++ [invitation] }

/-- `invitationTicketRepo.save`. -/
def RatingDb.saveLink (db : RatingDb) (link : RatingInvitationTicket) : RatingDb :=
  { db with links := db.links.map fun row => if row.id = link.id then link else row }

/-- A new link to each ticket. -/
def RatingDb.link (db : RatingDb) (invitationId : Nat) : List Nat → RatingDb
  | [] => db
  | ticketId :: rest =>
    RatingDb.link { db with links := db.links ++ [{ id := db.nextId, invitationId, ticketId }], nextId := db.nextId + 1 }
      invitationId rest

/-! ## The rest of the application -/

/-- The columns of `tickets` that the service reads. -/
structure RatedTicket where
  id : Nat
  requesterId : Nat
  status : TicketStatus
  satisfactionSubmittedAt : Option Int := none
deriving DecidableEq, Repr

structure UserStub where
  id : Nat
  email : String
  role : Role := .user
  active : Bool := true
deriving DecidableEq, Repr

inductive EmailDelivery where
  | sent
  | suppressed
  | failed
deriving DecidableEq, Repr

/-- What a step learns from outside its tables. -/
structure Moment where
  now : Int
  /-- What `randomBytes` or `randomInt` gives, as text. -/
  random : String := ""
  isEmailNotificationsEnabled : Option Bool := some false
  /-- The accounts `usersHttpClient` answers with. -/
  users : List UserStub := []
  /-- The exception of `requireAccountAccess`, if it raises one. -/
  accountAccess : Option HttpException := none
  /-- The message of `policySuppressionMessage` for a recipient that `checkRoutineRecipient` does not allow. -/
  suppression : Option String := none
  delivery : EmailDelivery := .sent
  /-- The ticket table, in the order of `eligibleTicketsFor`. -/
  tickets : List RatedTicket := []
  /-- What `ticketService.submitSatisfaction` raises, or its `satisfactionSubmittedAt`. -/
  submitSatisfaction : Except HttpException (Option Int) := .ok none

def Moment.getUserById (m : Moment) (id : Nat) : Option UserStub := m.users.find? fun user => decide (user.id = id)

inductive RatingFailure where
  | raised (e : HttpException)
  /-- `HttpException` with a status of its own. -/
  | http (message : String) (status : Nat)
deriving DecidableEq, Repr

def unavailableVerification : RatingFailure :=
  .http "Recipient verification is temporarily unavailable. Please try again." 503

inductive SendStatus where
  | sent
  | failed
  | skipped
deriving DecidableEq, Repr

structure SendResult where
  requesterId : Nat
  status : SendStatus
  message : String
deriving DecidableEq, Repr

inductive RatingAnswer where
  | results (results : List SendResult)
  | valid (requiresVerification : Bool) (expiresAt : Int)
  | message (text : String)
  | session (sessionToken : String) (maxAgeMs : Int)
  /-- The page of `getSessionTickets`. -/
  | tickets (invitationId : Nat) (expiresAt : Int)
  | success
deriving DecidableEq, Repr

/-! ## The calls -/

/-- A `sendInvitations` under way: the accounts it read at its start, its results and the recipients left. -/
structure Sending where
  actorId : Nat
  users : List UserStub
  results : List SendResult := []
  rest : List Nat
deriving DecidableEq, Repr

def Sending.push (sending : Sending) (requesterId : Nat) (status : SendStatus) (message : String) : Sending :=
  { sending with results := sending.results ++ [{ requesterId, status, message }] }

/-- What a call has done so far. -/
inductive RatingCall where
  | sendInvitations (requesterIds : List Nat) (actorId : Nat)
  | recipients (sending : Sending)
  /-- Its transaction has read the active invitations of the recipient. -/
  | reissuing (sending : Sending) (recipient : UserStub) (eligibleTickets : List RatedTicket) (rawToken : String)
      (now : Int) (previous : List RatingInvitation)
  /-- Its transaction has committed, and the mail is under way. -/
  | mailing (sending : Sending) (invitation : RatingInvitation)
  | getInvitationStatus (rawToken : String)
  | opened (invitation : RatingInvitation)
  | requestVerificationCode (rawToken : String)
  | requesting (invitation : RatingInvitation)
  | mailingCode (invitation : RatingInvitation)
  | verifyCode (rawToken code : String)
  | verifying (invitation : RatingInvitation) (code : String)
  /-- It found the invitation by its token, past its end. -/
  | expiring (invitation : RatingInvitation)
  | getSessionTickets (sessionToken : Option String)
  | submitRating (sessionToken : Option String) (ratingItemId : Nat)
  /-- It found the invitation by its session, of which one is past its end. -/
  | closingSession (invitation : RatingInvitation) (invitationExpired : Bool)
  /-- It found the invitation by its session, to rate an item or to show them all. -/
  | inSession (invitation : RatingInvitation) (ratingItemId : Option Nat)
  | rating (invitation : RatingInvitation) (ratingItemId : Nat)
  | rated (invitation : RatingInvitation) (link : RatingInvitationTicket)
  | completing (invitation : RatingInvitation)
  | returned (answer : RatingAnswer)
  | failed (failure : RatingFailure)
deriving DecidableEq, Repr

/-- A call that has not begun. -/
def RatingCall.isStart : RatingCall → Prop
  | .sendInvitations _ _ | .getInvitationStatus _ | .requestVerificationCode _ | .verifyCode _ _
  | .getSessionTickets _ | .submitRating _ _ => True
  | _ => False

def RatingCall.raised (e : HttpException) : RatingCall := .failed (.raised e)

/-! ## Sending -/

def isEligible (ticket : RatedTicket) (requesterId : Nat) : Bool :=
  ticket.requesterId = requesterId && (ticket.status = .resolved || ticket.status = .closed) &&
    ticket.satisfactionSubmittedAt.isNone

def eligibleTicketsFor (m : Moment) (requesterId : Nat) : List RatedTicket :=
  m.tickets.filter fun ticket => isEligible ticket requesterId

/-- `sendInvitations` up to its loop. -/
def sendInvitations (requesterIds : List Nat) (actorId : Nat) (m : Moment) : RatingCall :=
  let uniqueIds := requesterIds.eraseDups
  if m.isEmailNotificationsEnabled ≠ some false then
    .raised (.conflict "Manual rating invitations are unavailable while automatic outbound emails are enabled.")
  else if uniqueIds.length = 0 ∨ 50 < uniqueIds.length then
    .raised (.badRequest "Select between 1 and 50 eligible recipients.")
  else .recipients { actorId, users := m.users, rest := uniqueIds }

def isRecipient (user : UserStub) : Bool := user.active && user.role = .user && user.email ≠ ""

/-- The next recipient of `sendInvitations`, up to the read of its transaction. -/
def nextRecipient (db : RatingDb) (sending : Sending) (requesterId : Nat) (m : Moment) : RatingCall :=
  match (sending.users.find? fun user => decide (user.id = requesterId)).filter isRecipient with
  | none => .recipients (sending.push requesterId .skipped "Recipient is not eligible.")
  | some user =>
    if (eligibleTicketsFor m requesterId).isEmpty then
      .recipients (sending.push requesterId .skipped "No tickets are awaiting feedback.")
    else
      match m.suppression with
      | some message => .recipients (sending.push requesterId .skipped message)
      | none =>
        .reissuing sending user (eligibleTicketsFor m requesterId) m.random m.now
          (db.invitations.filter fun row => row.requesterId = requesterId && row.status = .active)

/-- A previous invitation of the recipient. -/
def revokedByResend (existing : RatingInvitation) (now : Int) : RatingInvitation :=
  { existing with
    status := .revoked
    revokedAt := some now
    otpHash := none
    otpExpiresAt := none
    sessionHash := none
    sessionExpiresAt := none }

/-- The first writes of the transaction. -/
def revokePrevious (db : RatingDb) (previous : List RatingInvitation) (now : Int) : RatingDb :=
  previous.foldl (fun db existing => db.save (revokedByResend existing now)) db

section
variable (hash : String → String)

def created (id : Nat) (user : UserStub) (actorId : Nat) (rawToken : String) (now : Int) : RatingInvitation where
  id := id
  requesterId := user.id
  recipientEmail := (trim user.email).toLower
  tokenHash := hash rawToken
  status := .active
  createdById := actorId
  expiresAt := now + INVITATION_LIFETIME_MS
  emailDeliveryStatus := .pending

/-- The writes of the transaction. -/
def reissue (db : RatingDb) (sending : Sending) (user : UserStub) (eligibleTickets : List RatedTicket) (rawToken : String)
    (now : Int) (previous : List RatingInvitation) : RatingDb × RatingCall :=
  let revoked := revokePrevious db previous now
  let invitation := created hash revoked.nextId user sending.actorId rawToken now
  let inserted := { revoked.save invitation with nextId := revoked.nextId + 1 }
  (inserted.link invitation.id (eligibleTickets.map RatedTicket.id), .mailing sending invitation)

end

def delivered (invitation : RatingInvitation) (m : Moment) : RatingInvitation :=
  match m.delivery with
  | .sent => { invitation with emailDeliveryStatus := .sent, emailSentAt := some m.now }
  | .suppressed =>
    { invitation with
      emailDeliveryStatus := .suppressed, emailSentAt := none, status := .revoked, revokedAt := some m.now }
  | .failed =>
    { invitation with emailDeliveryStatus := .failed, emailSentAt := none, status := .revoked, revokedAt := some m.now }

/-- The result of a delivery. -/
def sendResult (sending : Sending) (requesterId : Nat) : EmailDelivery → Sending
  | .sent => sending.push requesterId .sent "Invitation sent."
  | .suppressed =>
    sending.push requesterId .skipped "Email was suppressed by the current sending controls; the new link was revoked."
  | .failed => sending.push requesterId .failed "Email delivery failed; the new link was revoked."

/-! ## The holder of a token -/

/-- What a read of the service finds. -/
inductive Found where
  | refused (failure : RatingFailure)
  | expired (invitation : RatingInvitation) (invitationExpired : Bool)
  | active (invitation : RatingInvitation)
deriving DecidableEq, Repr

/-- `/^[A-Za-z0-9_-]{40,128}$/`. -/
def isToken (text : String) : Bool :=
  40 ≤ text.length && text.length ≤ 128 &&
    text.toList.all fun c => c.isAlpha || c.isDigit || c = '_' || c = '-'

def unavailable : RatingFailure := .raised (.notFound "This feedback invitation is invalid or unavailable.")

section
variable (hash : String → String)

/-- `getActiveInvitationByToken`, up to the save of an invitation past its end. -/
def getActiveInvitationByToken (db : RatingDb) (rawToken : String) (now : Int) : Found :=
  if ¬ isToken rawToken then .refused unavailable
  else
    match db.invitations.find? fun row => decide (row.tokenHash = hash rawToken) with
    | none => .refused unavailable
    | some invitation =>
      if invitation.status ≠ .active then .refused unavailable
      else if invitation.expiresAt ≤ now then .expired invitation true
      else .active invitation

end

/-- Past its end, as `getActiveInvitationByToken` saves it. -/
def expired (invitation : RatingInvitation) : RatingInvitation :=
  { invitation with status := .expired, otpHash := none, sessionHash := none }

def getInvitationStatus (db : RatingDb) (invitation : RatingInvitation) (m : Moment) : RatingDb × RatingCall :=
  match m.accountAccess with
  | some e => (db, .raised e)
  | none =>
    (if invitation.lastAccessedAt.isNone then db.save { invitation with lastAccessedAt := some m.now } else db,
      .returned (.valid true invitation.expiresAt))

def isCoolingDown (invitation : RatingInvitation) (now : Int) : Bool :=
  invitation.otpSentAt.any fun sentAt => now - sentAt < OTP_RESEND_COOLDOWN_MS

/-- Both are compared as `trim().toLowerCase()`. -/
def isRecipientEmail (user : UserStub) (invitation : RatingInvitation) : Bool :=
  (trim user.email).toLower = (trim invitation.recipientEmail).toLower

def revokedAfterEmailChange (invitation : RatingInvitation) (now : Int) : RatingInvitation :=
  { invitation with status := .revoked, revokedAt := some now, otpHash := none, sessionHash := none }

section
variable (hash : String → String)

def codeDigest (invitation : RatingInvitation) (code : String) : String := hash (toString invitation.id ++ ":" ++ code)

def withCode (db : RatingDb) (invitation : RatingInvitation) (m : Moment) : RatingInvitation :=
  { invitation with
    otpHash := some ⟨codeDigest hash invitation m.random, db.issued⟩
    otpExpiresAt := some (m.now + OTP_LIFETIME_MS)
    otpAttempts := 0
    otpSentAt := some m.now }

/-- `requestVerificationCode`, from the invitation it found to the save before its mail. -/
def requestVerificationCode (db : RatingDb) (invitation : RatingInvitation) (m : Moment) : RatingDb × RatingCall :=
  match m.accountAccess with
  | some e => (db, .raised e)
  | none =>
    if isCoolingDown invitation m.now then
      (db, .failed (.http "Please wait one minute before requesting another code." 429))
    else
      match m.getUserById invitation.requesterId with
      | none => (db, .failed unavailableVerification)
      | some user =>
        if user.active = false ∨ user.role ≠ .user then
          (db, .raised (.forbidden "This feedback invitation is no longer available."))
        else if ¬ isRecipientEmail user invitation then
          (db.save (revokedAfterEmailChange invitation m.now),
            .raised (.forbidden
              "The recipient email has changed. Ask an authorized staff member to send a new invitation."))
        else
          ({ db.save (withCode hash db invitation m) with issued := db.issued + 1 },
            .mailingCode (withCode hash db invitation m))

end

def withoutCode (invitation : RatingInvitation) : RatingInvitation :=
  { invitation with otpHash := none, otpExpiresAt := none }

/-- `requestVerificationCode` after its mail. -/
def codeMailed (db : RatingDb) (invitation : RatingInvitation) (m : Moment) : RatingDb × RatingCall :=
  if m.delivery = .sent then
    (db, .returned (.message "A verification code was sent to the invitation recipient."))
  else
    (db.save (withoutCode invitation),
      .failed (.http "The verification email could not be sent. Please contact support." 503))

/-- `/^\d{6}$/`. -/
def isSixDigits (code : String) : Bool := code.length = 6 && code.toList.all Char.isDigit

def attempted (invitation : RatingInvitation) : RatingInvitation :=
  { invitation with otpAttempts := invitation.otpAttempts + 1 }

def isExhausted (invitation : RatingInvitation) : Bool := 5 ≤ invitation.otpAttempts

/-- An incorrect code was evaluated. -/
def verificationFailed (invitation : RatingInvitation) : RatingInvitation :=
  if isExhausted (attempted invitation) then withoutCode (attempted invitation) else attempted invitation

section
variable (hash : String → String)

def recipientVerified (invitation : RatingInvitation) (m : Moment) : RatingInvitation :=
  { invitation with
    sessionHash := some (hash m.random)
    sessionExpiresAt := some (m.now + RATING_SESSION_LIFETIME_MS)
    verifiedAt := some m.now
    lastAccessedAt := some m.now
    otpHash := none
    otpExpiresAt := none
    otpAttempts := 0 }

/-- `verifyCode`, from the invitation it found. -/
def verifyCode (db : RatingDb) (invitation : RatingInvitation) (code : String) (m : Moment) : RatingDb × RatingCall :=
  match m.accountAccess with
  | some e => (db, .raised e)
  | none =>
    if ¬ isSixDigits code then (db, .raised (.badRequest "Enter the six-digit code."))
    else
      match invitation.otpHash, invitation.otpExpiresAt with
      | some issued, some otpExpiresAt =>
        if otpExpiresAt ≤ m.now then
          (db.save (withoutCode invitation),
            .raised (.badRequest "The verification code has expired. Request a new code."))
        else if codeDigest hash invitation code ≠ issued.digest then
          (db.save (verificationFailed invitation),
            .raised (.unauthorized
              (if isExhausted (attempted invitation) then "Too many incorrect attempts. Request a new code."
              else "The verification code is incorrect.")))
        else
          (db.save (recipientVerified hash invitation m), .returned (.session m.random RATING_SESSION_LIFETIME_MS))
      | _, _ => (db, .raised (.badRequest "Request a verification code first."))

/-! ## The holder of a session -/

/-- `getInvitationBySession`, up to the save of an invitation or a session past its end. -/
def getInvitationBySession (db : RatingDb) (sessionToken : Option String) (now : Int) : Found :=
  match sessionToken.filter isToken with
  | none => .refused (.raised (.unauthorized "Feedback verification is required."))
  | some token =>
    match db.invitations.find? fun row => decide (row.sessionHash = some (hash token)) with
    | none => .refused (.raised (.unauthorized "This feedback session is no longer available."))
    | some invitation =>
      if invitation.status ≠ .active then
        .refused (.raised (.unauthorized "This feedback session is no longer available."))
      else if invitation.expiresAt ≤ now ∨ invitation.sessionExpiresAt.all fun time => decide (time ≤ now) then
        .expired invitation (decide (invitation.expiresAt ≤ now))
      else .active invitation

end

/-- Past its end or its session's, as `getInvitationBySession` saves it. -/
def sessionClosed (invitation : RatingInvitation) (invitationExpired : Bool) : RatingInvitation :=
  { invitation with
    sessionHash := none
    sessionExpiresAt := none
    status := if invitationExpired then .expired else invitation.status }

def revokedInSession (invitation : RatingInvitation) (now : Int) : RatingInvitation :=
  { invitation with status := .revoked, revokedAt := some now, sessionHash := none, sessionExpiresAt := none }

/-- `getInvitationBySession` once the invitation is found, and what `getSessionTickets` answers with it. -/
def inSession (db : RatingDb) (invitation : RatingInvitation) (ratingItemId : Option Nat) (m : Moment) :
    RatingDb × RatingCall :=
  match m.getUserById invitation.requesterId with
  | none => (db, .failed unavailableVerification)
  | some user =>
    if user.active = false ∨ user.role ≠ .user ∨ ¬ isRecipientEmail user invitation then
      (db.save (revokedInSession invitation m.now),
        .raised (.forbidden "This feedback invitation is no longer available."))
    else
      match m.accountAccess, ratingItemId with
      | some e, _ => (db, .raised e)
      | none, none => (db, .returned (.tickets invitation.id invitation.expiresAt))
      | none, some item => (db, .rating invitation item)

def notIncluded : RatingCall := .raised (.notFound "This ticket is not included in the invitation.")

/-- `submitRating` up to the feedback it submits. -/
def submitRating (db : RatingDb) (invitation : RatingInvitation) (ratingItemId : Nat) (m : Moment) : RatingCall :=
  match db.links.find? fun link => decide (link.id = ratingItemId ∧ link.invitationId = invitation.id) with
  | none => notIncluded
  | some link =>
    match m.tickets.find? fun ticket => decide (ticket.id = link.ticketId ∧ ticket.requesterId = invitation.requesterId) with
    | none => notIncluded
    | some ticket =>
      if ticket.satisfactionSubmittedAt.isSome then
        .raised (.badRequest "Feedback has already been submitted for this ticket.")
      else if ticket.status ≠ .resolved ∧ ticket.status ≠ .closed then
        .raised (.badRequest "This ticket is not currently eligible for feedback.")
      else
        match m.submitSatisfaction with
        | .error e => .raised e
        | .ok submittedAt => .rated invitation { link with ratedAt := submittedAt <|> some m.now }

/-- The links of the invitation without a rating, whose tickets have been rated elsewhere. -/
def synchronized (db : RatingDb) (invitationId : Nat) (m : Moment) : RatingDb :=
  { db with
    links := db.links.map fun link =>
      if link.invitationId = invitationId ∧ link.ratedAt = none ∧
          (m.tickets.any fun ticket => ticket.id = link.ticketId && ticket.satisfactionSubmittedAt.isSome) then
        { link with ratedAt := some m.now }
      else link }

/-- The links that `submitRating` saves after the feedback, and whether one is left. -/
def rated (db : RatingDb) (invitation : RatingInvitation) (link : RatingInvitationTicket) (m : Moment) :
    RatingDb × RatingCall :=
  let db := synchronized (db.saveLink link) invitation.id m
  (db,
    if db.links.any fun link => link.invitationId = invitation.id && link.ratedAt.isNone then .returned .success
    else .completing invitation)

def completed (invitation : RatingInvitation) (now : Int) : RatingInvitation :=
  { invitation with status := .completed, completedAt := some now, sessionHash := none, sessionExpiresAt := none }

/-! ## Steps -/

/-- The call after a read, `next` for an invitation that is found. -/
def Found.follow (found : Found) (expired : RatingInvitation → Bool → RatingCall) (next : RatingInvitation → RatingCall) :
    RatingCall :=
  match found with
  | .refused failure => .failed failure
  | .expired invitation invitationExpired => expired invitation invitationExpired
  | .active invitation => next invitation

section
variable (hash : String → String)

def byToken (db : RatingDb) (rawToken : String) (m : Moment) (next : RatingInvitation → RatingCall) : RatingCall :=
  (getActiveInvitationByToken hash db rawToken m.now).follow (fun invitation _ => .expiring invitation) next

def bySession (db : RatingDb) (sessionToken : Option String) (m : Moment) (ratingItemId : Option Nat) : RatingCall :=
  (getInvitationBySession hash db sessionToken m.now).follow .closingSession fun invitation =>
    .inSession invitation ratingItemId

/-- A step of a call, none where it has ended. -/
def ratingStep (db : RatingDb) (call : RatingCall) (m : Moment) : Option (RatingDb × RatingCall) :=
  match call with
  | .sendInvitations requesterIds actorId => some (db, sendInvitations requesterIds actorId m)
  | .recipients ⟨_, _, results, []⟩ => some (db, .returned (.results results))
  | .recipients ⟨actorId, users, results, requesterId :: rest⟩ =>
    some (db, nextRecipient db ⟨actorId, users, results, rest⟩ requesterId m)
  | .reissuing sending recipient eligibleTickets rawToken now previous =>
    some (reissue hash db sending recipient eligibleTickets rawToken now previous)
  | .mailing sending invitation =>
    some (db.save (delivered invitation m), .recipients (sendResult sending invitation.requesterId m.delivery))
  | .getInvitationStatus rawToken => some (db, byToken hash db rawToken m .opened)
  | .opened invitation => some (getInvitationStatus db invitation m)
  | .requestVerificationCode rawToken => some (db, byToken hash db rawToken m .requesting)
  | .requesting invitation => some (requestVerificationCode hash db invitation m)
  | .mailingCode invitation => some (codeMailed db invitation m)
  | .verifyCode rawToken code => some (db, byToken hash db rawToken m fun invitation => .verifying invitation code)
  | .verifying invitation code => some (verifyCode hash db invitation code m)
  | .expiring invitation =>
    some (db.save (expired invitation), .failed (.http "This feedback invitation has expired." 410))
  | .getSessionTickets sessionToken => some (db, bySession hash db sessionToken m none)
  | .submitRating sessionToken ratingItemId => some (db, bySession hash db sessionToken m (some ratingItemId))
  | .closingSession invitation invitationExpired =>
    some (db.save (sessionClosed invitation invitationExpired),
      .raised (.unauthorized "This feedback session has expired."))
  | .inSession invitation ratingItemId => some (inSession db invitation ratingItemId m)
  | .rating invitation ratingItemId => some (db, submitRating db invitation ratingItemId m)
  | .rated invitation link => some (rated db invitation link m)
  | .completing invitation => some (db.save (completed invitation m.now), .returned .success)
  | .returned _ | .failed _ => none

end

/-! ## What a save does -/

variable {db : RatingDb} {invitation row : RatingInvitation}

theorem mem_save (h : row ∈ (db.save invitation).invitations) :
    row = invitation ∨ row ∈ db.invitations ∧ row.id ≠ invitation.id := by
  unfold RatingDb.save at h
  split_ifs at h with hknown
  · obtain ⟨old, hold, rfl⟩ := List.mem_map.mp h
    split_ifs with hid
    · exact .inl rfl
    · exact .inr ⟨hold, hid⟩
  · rcases List.mem_append.mp h with h | h
    · refine .inr ⟨h, fun hid => hknown ?_⟩
      exact List.any_eq_true.mpr ⟨row, h, decide_eq_true hid⟩
    · exact .inl (List.mem_singleton.mp h)

theorem save_mem (db : RatingDb) (invitation : RatingInvitation) : invitation ∈ (db.save invitation).invitations := by
  unfold RatingDb.save
  split_ifs with hknown
  · obtain ⟨old, hold, hid⟩ := List.any_eq_true.mp hknown
    exact List.mem_map.mpr ⟨old, hold, if_pos (of_decide_eq_true hid)⟩
  · exact List.mem_append_right _ (List.mem_singleton_self _)

theorem save_keeps (h : row ∈ db.invitations) (hid : row.id ≠ invitation.id) :
    row ∈ (db.save invitation).invitations := by
  unfold RatingDb.save
  split_ifs with hknown
  · exact List.mem_map.mpr ⟨row, h, if_neg hid⟩
  · exact List.mem_append_left _ h

@[simp] theorem save_nextId (db : RatingDb) (invitation : RatingInvitation) :
    (db.save invitation).nextId = db.nextId := rfl

/-- No two rows have one identifier. -/
def Distinct (db : RatingDb) : Prop := (db.invitations.map RatingInvitation.id).Nodup

theorem Distinct.eq (h : Distinct db) {row row' : RatingInvitation} (hrow : row ∈ db.invitations)
    (hrow' : row' ∈ db.invitations) (hid : row.id = row'.id) : row = row' :=
  List.inj_on_of_nodup_map h hrow hrow' hid

theorem Distinct.save (h : Distinct db) (invitation : RatingInvitation) : Distinct (db.save invitation) := by
  unfold Distinct RatingDb.save
  dsimp only
  split_ifs with hknown
  · rw [List.map_map]
    have hids : (RatingInvitation.id ∘ fun row : RatingInvitation => if row.id = invitation.id then invitation else row) =
        RatingInvitation.id := by
      funext row
      rw [Function.comp_apply]
      split_ifs with hid
      · exact hid.symm
      · rfl
    rw [hids]
    exact h
  · rw [List.map_append, List.map_singleton]
    refine List.Nodup.append h (List.nodup_singleton _) ?_
    intro id hid hid'
    obtain ⟨row, hrow, rfl⟩ := List.mem_map.mp hid
    rw [List.mem_singleton] at hid'
    exact hknown (List.any_eq_true.mpr ⟨row, hrow, decide_eq_true hid'⟩)

@[simp] theorem link_invitations (db : RatingDb) (id : Nat) (tickets : List Nat) :
    (db.link id tickets).invitations = db.invitations := by
  induction tickets generalizing db with
  | nil => rfl
  | cons ticket rest ih => exact ih _

theorem nextId_le_link (db : RatingDb) (id : Nat) (tickets : List Nat) : db.nextId ≤ (db.link id tickets).nextId := by
  induction tickets generalizing db with
  | nil => exact Nat.le_refl _
  | cons ticket rest ih =>
    have hrest := ih { db with links := db.links ++ [{ id := db.nextId, invitationId := id, ticketId := ticket }],
                               nextId := db.nextId + 1 }
    exact (Nat.le_succ _).trans hrest

/-! ## What a read finds -/

/-- The invitation a read has found, if any. -/
def Found.entity : Found → Option RatingInvitation
  | .refused _ => none
  | .expired invitation _ | .active invitation => some invitation

variable {hash : String → String} {rawToken : String} {now : Int}

theorem getActiveInvitationByToken_found
    (h : (getActiveInvitationByToken hash db rawToken now).entity = some invitation) :
    invitation ∈ db.invitations ∧ invitation.status = .active := by
  unfold getActiveInvitationByToken at h
  split at h
  · cases h
  · split at h
    · cases h
    · rename_i row hfind
      split_ifs at h with hstatus hexpired
      · cases h
      · cases h
        exact ⟨List.mem_of_find?_eq_some hfind, not_not.mp hstatus⟩
      · cases h
        exact ⟨List.mem_of_find?_eq_some hfind, not_not.mp hstatus⟩

theorem getInvitationBySession_found {sessionToken : Option String}
    (h : (getInvitationBySession hash db sessionToken now).entity = some invitation) :
    invitation ∈ db.invitations ∧ invitation.status = .active := by
  unfold getInvitationBySession at h
  split at h
  · cases h
  · split at h
    · cases h
    · rename_i row hfind
      split_ifs at h with hstatus hexpired
      · cases h
      · cases h
        exact ⟨List.mem_of_find?_eq_some hfind, not_not.mp hstatus⟩
      · cases h
        exact ⟨List.mem_of_find?_eq_some hfind, not_not.mp hstatus⟩

end ComplianceHub.Ratings
