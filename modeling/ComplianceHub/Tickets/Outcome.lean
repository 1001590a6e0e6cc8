import ComplianceHub.Tickets.Queue
import ComplianceHub.Tickets.Read

/-!
# Cancellation, satisfaction and resolution time

* `cancelTicket` : a requester or an administrator withdraws a ticket, with its open escalations;
* `submitSatisfaction` : the requester rates a resolved ticket and closes it;
* `overrideResolutionTime` : the verified completion time of a resolved ticket.
-/

namespace ComplianceHub.Tickets

open ComplianceHub.Interruption

section
variable (s : Services)

/-! ## Cancellation -/

/-- Trimmed text of 1 to `limit` characters. -/
def requiredText (text : String) (limit : Nat) (e : HttpException) : Except HttpException String := do
  let text := trim text
  check (text ≠ "" ∧ text.length ≤ limit) e
  pure text

def assertTicketCancellationAllowed (t : Ticket) (actorId : Nat) (actorRole : Role) (hasCapability : Bool) :
    Except HttpException Unit := do
  check hasCapability (.forbidden "Ticket cancellation capability is required.")
  check (isLiveStatus t.status) (.badRequest "Only Open, Assigned, or In Progress tickets can be cancelled.")
  check (actorRole ≠ .user ∨ t.requesterId = actorId ∨ t.createdById = some actorId)
    (.forbidden "You can only cancel your own requests or tickets you filed.")

/-- A request to cancel, checked before the lock is taken. -/
structure Cancellation where
  reason : String
  expectedUpdatedAt : Nat
  actor : User

def cancellation (dto : CancelTicketDto) (actorId : Nat) : Except HttpException Cancellation := do
  let reason ← requiredText dto.reason 1500 (.badRequest "A cancellation reason of 1–1500 characters is required.")
  match dto.expectedUpdatedAt, activeStaff (s.getUserById actorId) with
  | none, _ => .error (.badRequest "A valid ticket version is required.")
  | _, none => .error (.forbidden "An active account is required.")
  | some expectedUpdatedAt, some actor => pure { reason, expectedUpdatedAt, actor }

/-- The row of a cancelled ticket. -/
def cancelledRow (actorId : Nat) (reason : String) (t : Ticket) : Ticket :=
  { t with
    interruptionHistory := recordInterruptionTransition t.interruptionHistory t.status .cancelled s.now
    status := .cancelled
    cancelledAt := some s.now
    cancelledById := some actorId
    cancellationReason := some reason
    slaPausedAt := none
    isSlaWaiting := false
    isKbGenerationPending := false }

def isActiveEscalation (e : TicketEscalation) : Bool := e.status = .pending || e.status = .accepted

def cancelEscalation (ticketId : Nat) (e : TicketEscalation) : TicketEscalation :=
  if e.ticketId = ticketId ∧ isActiveEscalation e then { e with status := .cancelled } else e

@[simp] theorem id_cancelEscalation (ticketId : Nat) (e : TicketEscalation) :
    (cancelEscalation ticketId e).id = e.id := by
  unfold cancelEscalation
  split_ifs <;> rfl

@[simp] theorem ticketId_cancelEscalation (ticketId : Nat) (e : TicketEscalation) :
    (cancelEscalation ticketId e).ticketId = e.ticketId := by
  unfold cancelEscalation
  split_ifs <;> rfl

/-- The open escalations of a ticket cancelled with it. -/
def Db.cancelEscalations (db : Db) (ticketId : Nat) : Db :=
  { db with
    escalations := db.escalations.map (cancelEscalation ticketId)
    escalationKey := by
      rw [List.map_map, show TicketEscalation.id ∘ cancelEscalation ticketId = TicketEscalation.id from
        funext (id_cancelEscalation ticketId)]
      exact db.escalationKey }

/-- Running work of a staff member, as the cancellation counts it. -/
def runningCount (db : Db) (techId : Nat) : Nat :=
  db.count fun t => t.assignedToId = some techId && t.status = .in_progress && !t.isSlaWaiting

/-- Free the queue slot. A failure never reports a committed cancellation as failed. -/
def cancellationHandoff (techId : Nat) : TicketM Unit := do
  let db ← get
  if runningCount db techId = 0 then
    match promotion s db techId with
    | .ok (some row) => modify fun db => db.setTicket row
    | _ => pure ()
  else pure ()

def cancelTicket (id : Nat) (dto : CancelTicketDto) (actorId : Nat) : TicketM Unit := do
  let request ← ofExcept (cancellation s dto actorId)
  let db ← get
  let t ← orThrow (db.ticket? id) (.notFound "Ticket not found.")
  ofExcept (assertTicketCancellationAllowed t actorId request.actor.role
    (s.roleCapability request.actor.role).isTicketCancellation)
  throwIf (t.updatedAt ≠ request.expectedUpdatedAt)
    (.conflict "This ticket changed. Refresh it before cancelling.")
  updateTicketRow t.id (cancelledRow s actorId request.reason)
  modify fun db => db.cancelEscalations t.id
  logStatusChanged t.id t.status .cancelled
  whenSome t.assignedToId (cancellationHandoff s)

/-- The tables once a cancellation is committed. -/
def Db.cancelled (db : Db) (t : Ticket) (actorId : Nat) (reason : String) : Db :=
  ((db.update t.id (cancelledRow s actorId reason)).cancelEscalations t.id).logStatus t.id t.status .cancelled

/-- The hand-over after a cancellation: a failed promotion leaves the tables. -/
def CancellationFreesQueue (owner : Option Nat) (db db' : Db) : Prop :=
  match owner with
  | some owner =>
    if runningCount db owner = 0 then HandsOn s owner db db' ∨ (∃ e, promotion s db owner = .error e) ∧ db' = db
    else db' = db
  | none => db' = db

theorem returns_cancellationHandoff {owner : Nat} {db db' : Db} {u : Unit}
    (h : Returns (cancellationHandoff s owner) db u db') : CancellationFreesQueue s (some owner) db db' := by
  simp only [cancellationHandoff, returns_bind, returns_get] at h
  obtain ⟨_, _, ⟨rfl, rfl⟩, h⟩ := h
  unfold CancellationFreesQueue
  dsimp only
  split_ifs at h ⊢ with hcount
  · cases hp : promotion s db owner with
    | error e =>
      simp only [hp, returns_pure] at h
      exact .inr ⟨⟨e, rfl⟩, h.2.symm⟩
    | ok t =>
      have hon := HandsOn.of_promotion s hp
      cases t with
      | none =>
        simp only [hp, returns_pure] at h
        exact .inl (h.2 ▸ hon)
      | some t =>
        simp only [hp, returns_modify] at h
        exact .inl (h ▸ hon)
  · exact ((returns_pure _ _).mp h).2.symm

theorem returns_cancelTicket {id : Nat} {dto : CancelTicketDto} {actorId : Nat} {db db' : Db} {u : Unit}
    (h : Returns (cancelTicket s id dto actorId) db u db') :
    ∃ row reason, db.ticket? id = some row ∧ isLiveStatus row.status = true ∧
      dto.expectedUpdatedAt = some row.updatedAt ∧
      CancellationFreesQueue s row.assignedToId (Db.cancelled s db row actorId reason) db' := by
  simp only [cancelTicket, returns_bind, returns_throwIf, returns_get, returns_orThrow, returns_ofExcept,
    returns_updateTicketRow, returns_modify, returns_logStatusChanged] at h
  obtain ⟨request, _, ⟨hrequest, rfl⟩, _, _, ⟨rfl, rfl⟩, row, _, ⟨hrow, rfl⟩, _, _, ⟨hallowed, rfl⟩, _, _, ⟨hversion, rfl⟩,
    _, _, rfl, _, _, rfl, _, _, rfl, h⟩ := h
  have hlive : isLiveStatus row.status = true := by
    simp only [assertTicketCancellationAllowed, bind_eq_ok, check_eq_ok] at hallowed
    obtain ⟨-, -, -, hlive, -⟩ := hallowed
    exact hlive
  have hexpected : dto.expectedUpdatedAt = some row.updatedAt := by
    simp only [cancellation, bind_eq_ok] at hrequest
    obtain ⟨reason, -, hrequest⟩ := hrequest
    split at hrequest
    · cases hrequest
    · cases hrequest
    · cases hrequest
      rename_i heq _
      rw [heq, not_not.mp hversion]
  refine ⟨row, request.reason, hrow, hlive, hexpected, ?_⟩
  rcases returns_whenSome.mp h with ⟨howner, rfl⟩ | ⟨owner, howner, h⟩
  · rw [howner]
    rfl
  · rw [howner]
    exact returns_cancellationHandoff s h

/-! ## Satisfaction -/

/-- `Math.floor((value + Number.EPSILON) * 100) / 100`. -/
def roundRating (value : Rat) : Rat := ⌊(value + 1 / 2 ^ 52) * 100⌋ / 100

/-- The average of the answered items, none when there is no answer. -/
def deriveSatisfactionRating (likert : List Likert) : Option Rat :=
  let numericLikert := likert.filterMap fun
    | .na => none
    | .rating value => if 1 ≤ value ∧ value ≤ 5 then some value else none
  if numericLikert.isEmpty then none else some (roundRating (numericLikert.sum / numericLikert.length))

def isBlank (text : String) : Bool := trim text = ""

def isWholeNumber (value low high : Rat) : Bool := value.den = 1 && low ≤ value && value ≤ high

def Likert.isValid : Likert → Bool
  | .na => true
  | .rating value => isWholeNumber value 1 5

/-- The checks of the full form. -/
def validateCsatForm (form : CsatFormData) : Except HttpException Unit := do
  check form.consentGiven (.badRequest "Informed consent is required to submit the satisfaction form.")
  check (isBlank form.unitSection = false) (.badRequest "Unit/Section is required.")
  check (isBlank form.dateOfTransaction = false) (.badRequest "Date of transaction is required.")
  check (isBlank form.clientFirstName = false ∧ isBlank form.clientLastName = false)
    (.badRequest "Client first and last name are required.")
  check (form.sex ≠ "") (.badRequest "Sex is required.")
  check (isBlank form.contactNumber = false) (.badRequest "Contact number is required.")
  check (form.contactNumber.toList.length = 10 ∧ form.contactNumber.toList.all Char.isDigit)
    (.badRequest "Contact number must contain exactly 10 digits.")
  check (form.age.all fun age => isWholeNumber age 0 120)
    (.badRequest "Age must be a whole number between 0 and 120.")
  check (isBlank form.technicianName = false) (.badRequest "Technician name is required.")
  check (form.likert.length = 9) (.badRequest "All 9 service quality items must be answered.")
  check (form.likert.all Likert.isValid) (.badRequest "Each service quality rating must be 1 to 5 or NA.")

/-- The rating and the comment of a submission; the full form has no comment. -/
def submittedRating (dto : SubmitSatisfactionDto) : Except HttpException (Option Rat × Option String) := do
  match dto.formData with
  | some form =>
    validateCsatForm form
    pure (deriveSatisfactionRating form.likert, none)
  | none =>
    let rating := dto.rating.getD 0
    check (1 ≤ rating ∧ rating ≤ 5) (.badRequest "Rating must be between 1 and 5.")
    pure (some (roundRating rating), dto.comment)

/-- The entity a submission saves. -/
def ratedTicket (t : Ticket) (dto : SubmitSatisfactionDto) (requesterId : Nat) : Except HttpException Ticket := do
  check (t.requesterId = requesterId) (.forbidden "Only the requester can submit satisfaction.")
  check (t.status = .resolved ∨ t.status = .closed)
    (.badRequest "Satisfaction can only be submitted for resolved or closed tickets.")
  check (t.satisfactionSubmittedAt = none) (.badRequest "Satisfaction has already been submitted for this ticket.")
  let (satisfactionRating, satisfactionComment) ← submittedRating dto
  pure { t with
    satisfactionRating, satisfactionComment, satisfactionSubmittedAt := some s.now, status := .closed }

/-- A submission closes a resolved ticket, and keeps a closed one. -/
theorem ratedTicket_eq {t t' : Ticket} {dto : SubmitSatisfactionDto} {requesterId : Nat}
    (h : ratedTicket s t dto requesterId = .ok t') : (t.status = .resolved ∨ t.status = .closed) ∧
      ∃ satisfactionRating satisfactionComment, t' = { t with
        satisfactionRating, satisfactionComment, satisfactionSubmittedAt := some s.now, status := .closed } := by
  simp only [ratedTicket, bind_eq_ok, check_eq_ok] at h
  obtain ⟨-, -, -, hstatus, -, -, rating, -, h⟩ := h
  cases h
  exact ⟨hstatus, _, _, rfl⟩

theorem ratedTicket_id {t t' : Ticket} {dto : SubmitSatisfactionDto} {requesterId : Nat}
    (h : ratedTicket s t dto requesterId = .ok t') : t'.id = t.id := by
  obtain ⟨-, _, _, rfl⟩ := ratedTicket_eq s h
  rfl

def submitSatisfaction (id : Nat) (dto : SubmitSatisfactionDto) (requesterId : Nat) : TicketM Ticket := do
  let db ← get
  let row ← orThrow (db.ticket? id) (.notFound "Ticket not found")
  let t ← ofExcept (ratedTicket s (enrichTicket db row) dto requesterId)
  saveTicket t
  pure t

theorem returns_submitSatisfaction {id : Nat} {dto : SubmitSatisfactionDto} {requesterId : Nat} {db db' : Db} {t : Ticket}
    (h : Returns (submitSatisfaction s id dto requesterId) db t db') :
    ∃ row, db.ticket? id = some row ∧ ratedTicket s (enrichTicket db row) dto requesterId = .ok t ∧ db' = db.save t := by
  simp only [submitSatisfaction, returns_bind, returns_get, returns_orThrow, returns_ofExcept, returns_saveTicket,
    returns_pure] at h
  obtain ⟨_, _, ⟨rfl, rfl⟩, row, _, ⟨hrow, rfl⟩, _, _, ⟨ht, rfl⟩, _, _, rfl, rfl, rfl⟩ := h
  exact ⟨row, hrow, ht, rfl⟩

/-! ## The verified resolution time -/

structure ResolutionOverride where
  /-- The instant the text parses to, or a text that is no date. -/
  verifiedResolvedAt : Option Int
  reason : String
  proofFiles : Nat
deriving DecidableEq, Repr

def verifiedTime (t : Ticket) (body : ResolutionOverride) : Except HttpException Int := do
  check (t.status = .resolved ∨ t.status = .closed)
    (.badRequest "Only resolved or closed tickets can have their resolution time corrected.")
  match t.resolvedAt with
  | none => .error (.badRequest "This ticket does not have a recorded resolution time.")
  | some recordedResolvedAt =>
    check (10 ≤ (trim body.reason).length)
      (.badRequest "Reason must contain at least 10 characters.")
    check (0 < body.proofFiles) (.badRequest "At least one proof image with a visible timestamp is required.")
    match body.verifiedResolvedAt with
    | none => .error (.badRequest "Enter a valid verified completion date and time.")
    | some verified =>
      check (t.slaStartedAt.getD t.createdAt ≤ verified) (.badRequest <|
        if t.slaStartedAt.isSome then "Verified completion time cannot be before the ticket entered In Progress."
        else "Verified completion time cannot be before the ticket was created.")
      check (verified ≤ recordedResolvedAt)
        (.badRequest "Verified completion time cannot be later than the recorded resolution time.")
      check (verified ≤ s.now) (.badRequest "Verified completion time cannot be in the future.")
      pure verified

def overrideResolutionTime (id : Nat) (body : ResolutionOverride) (actor : Actor) : TicketM Unit := do
  throwIf ((s.roleCapability actor.role).isTicketResolutionTimeOverride = false)
    (.forbidden "Ticket Resolution Time Override capability is required.")
  let loaded ← getTicketById s id actor
  let verified ← ofExcept (verifiedTime s loaded.ticket body)
  updateTicketRow id fun row => { row with resolutionTimeOverride := some verified }

theorem returns_overrideResolutionTime {id : Nat} {body : ResolutionOverride} {actor : Actor} {db db' : Db} {u : Unit}
    (h : Returns (overrideResolutionTime s id body actor) db u db') :
    ∃ row verified, db.ticket? id = some row ∧ (row.status = .resolved ∨ row.status = .closed) ∧
      db' = db.update id fun row => { row with resolutionTimeOverride := some verified } := by
  simp only [overrideResolutionTime, returns_bind, returns_throwIf, returns_getTicketById, returns_ofExcept,
    returns_updateTicketRow] at h
  obtain ⟨_, _, ⟨-, rfl⟩, loaded, _, ⟨row, hrow, hload, rfl⟩, verified, _, ⟨hverified, rfl⟩, rfl⟩ := h
  simp only [verifiedTime, bind_eq_ok, check_eq_ok] at hverified
  obtain ⟨-, hstatus, -⟩ := hverified
  exact ⟨row, verified, hrow, (loadTicket_loads hload).status ▸ hstatus, rfl⟩

end

end ComplianceHub.Tickets
