import ComplianceHub.Tickets.Store

/-!
# Routing and assignee rules

The checks of `TicketService` and of the ticket settings that several operations share.

* `validateRoutingSelection` : the support type, category and issue of a ticket fit together;
* `assertSpecializedAssigneeEligibility`, `assertRequesterAssignmentSeparation` : who may own a ticket;
* `Separated` : what the second of them promises;
* `assertProxyRequesterAllowed` : for whom a regular user may file.
-/

namespace ComplianceHub.Tickets

/-- The row that is there, or the exception. -/
def orError {α : Type} (x : Option α) (e : HttpException) : Except HttpException α :=
  match x with
  | some a => .ok a
  | none => .error e

theorem orError_eq_ok {α : Type} {x : Option α} {e : HttpException} {a : α} : orError x e = .ok a ↔ x = some a := by
  cases x <;> simp [orError]

section
variable (s : Services)

def categorySupportsTicketType (category : TicketCategoryConfig) : TicketType → Bool
  | .it_support => category.isIt
  | .desktop_support => category.isDesktop
  | .pantawid_ict_support => category.isPantawid
  | .specialized_concerns => category.isSpecialized

/-- `settingsService.validateRoutingSelection`, on active rows only, as the ticket services call it. -/
def validateRoutingSelection (ticketType : TicketType) (categoryId : Nat) (issueTypeId : Option Nat) :
    Except HttpException (TicketCategoryConfig × Option TicketIssueType) := do
  let category ← orError ((s.categories categoryId).filter fun c => !c.isDeleted && c.isActive)
    (.badRequest "Selected category is invalid or inactive.")
  check (categorySupportsTicketType category ticketType)
    (.badRequest "Selected category does not belong to the selected support type.")
  match issueTypeId with
  | none => .ok (category, none)
  | some id => do
    let issueType ← orError ((s.issueTypes id).filter fun i => !i.isDeleted && i.isActive)
      (.badRequest "Selected issue type is invalid or inactive.")
    check (issueType.categoryId = some category.id)
      (.badRequest "Selected issue does not belong to the selected category.")
    .ok (category, some issueType)

/-- The validated issue is the row that is named. -/
theorem validateRoutingSelection_issue {ticketType : TicketType} {categoryId : Nat} {issueTypeId : Option Nat}
    {category : TicketCategoryConfig} {issueType : Option TicketIssueType}
    (h : validateRoutingSelection s ticketType categoryId issueTypeId = .ok (category, issueType)) :
    issueType = issueTypeId.bind s.issueTypes := by
  simp only [validateRoutingSelection, bind_eq_ok] at h
  obtain ⟨_, -, -, -, h⟩ := h
  cases issueTypeId with
  | none =>
    cases h
    rfl
  | some id =>
    simp only [bind_eq_ok, orError_eq_ok] at h
    obtain ⟨issue, hissue, -, -, h⟩ := h
    cases h
    exact (Option.eq_some_of_filter_eq_some hissue).symm

def isDirectAssignableRictmsStaff (role : Role) : Bool := role ≠ .user && role ≠ .super_admin

/-- Specialized Concerns are always manually routed and may only be owned by active RICTMS staff whose role
explicitly carries Specialized Support. -/
def assertSpecializedAssigneeEligibility (ticketType : TicketType) (assignee : Option User) :
    Except HttpException Unit :=
  check (ticketType ≠ .specialized_concerns ∨ assignee.any fun user =>
      user.active && isDirectAssignableRictmsStaff user.role && s.isSpecializedSupport user.role)
    (.badRequest "The selected assignee is not authorized for Specialized Concerns.")

/-- The requester/reporter separation of the three technician support types. -/
def assertRequesterAssignmentSeparation (ticketType : TicketType) (assigneeId requesterId : Nat)
    (createdById : Option Nat) : Except HttpException Unit :=
  check (ticketType = .specialized_concerns ∨ (assigneeId ≠ requesterId ∧ createdById ≠ some assigneeId))
    (.forbidden "A ticket cannot be assigned to the person who requested or reported it.")

/-- The owner, if any, is not the person who asked, Specialized Concerns apart. -/
def Separated (ticketType : TicketType) (owner : Option Nat) (requesterId : Nat) : Prop :=
  ticketType = .specialized_concerns ∨ owner ≠ some requesterId

theorem separated_of_assert {ticketType : TicketType} {assigneeId requesterId : Nat} {createdById : Option Nat} {u : Unit}
    (h : assertRequesterAssignmentSeparation ticketType assigneeId requesterId createdById = .ok u) :
    Separated ticketType (some assigneeId) requesterId := by
  rw [assertRequesterAssignmentSeparation, check_eq_ok] at h
  exact h.imp id fun h heq => h.1 (Option.some.inj heq)

def assertProxyRequesterAllowed (actorId : Nat) (actorRole : Option Role) (requester : User) :
    Except HttpException Unit :=
  if requester.id = actorId ∨ actorRole ≠ some .user then .ok ()
  else match s.getUserById actorId with
    | none => .error (.badRequest "Your unit could not be verified. Please retry the request.")
    | some actor =>
      check (actor.units.head?.any fun unit => unit.id ≠ 0 && requester.units.any fun u => u.id = unit.id)
        (.forbidden "Regular users may submit proxy requests only for staff in their own unit.")

def captureTicketUnit (requester : User) (source : UnitSource) : TicketUnitSnapshot :=
  let unit := requester.units.head?
  { unitId := (unit.map UserUnit.id).filter fun id => 0 < id
    unitName := (unit.map fun u => trim u.name).filter fun name => name ≠ ""
    source, capturedAt := s.now }

/-- An account that exists and is active. -/
def activeStaff (user : Option User) : Option User := user.filter User.active

end

end ComplianceHub.Tickets
