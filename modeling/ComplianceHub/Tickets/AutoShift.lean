import ComplianceHub.Tickets.Create
import ComplianceHub.Tickets.KeywordOrder

/-!
# Auto-shift and the routing of a request

* `Fits` : what `validateRoutingSelection` accepts;
* `Services.routedBy` : the services with the keyword rules of the table;
* `Mixes` : the matched rule names another category and no issue, and an issue was selected;
* `auto_shift_accepts` : a valid selection is filed with a valid one where it is not mixed, and rejected where it is.
-/

namespace ComplianceHub.Tickets

variable {s : Services} {ticketType : TicketType} {categoryId : Nat} {issueTypeId : Option Nat}

/-- An active category of the support type, and an active issue of the category where there is one. -/
structure Fits (s : Services) (ticketType : TicketType) (categoryId : Nat) (issueTypeId : Option Nat)
    (category : TicketCategoryConfig) : Prop where
  found : s.categories categoryId = some category
  active : category.isDeleted = false ∧ category.isActive = true
  supports : categorySupportsTicketType category ticketType = true
  issue : ∀ id, issueTypeId = some id → ∃ issue, s.issueTypes id = some issue ∧ issue.isDeleted = false ∧
    issue.isActive = true ∧ issue.categoryId = some category.id

theorem validateRoutingSelection_isOk :
    (∃ selection, validateRoutingSelection s ticketType categoryId issueTypeId = .ok selection) ↔
      ∃ category, Fits s ticketType categoryId issueTypeId category := by
  unfold validateRoutingSelection
  simp only [bind_eq_ok, orError_eq_ok, check_eq_ok, Option.filter_eq_some_iff, Bool.and_eq_true, Bool.not_eq_true']
  constructor
  · rintro ⟨selection, category, ⟨hfound, hactive⟩, _, hsupports, hselection⟩
    refine ⟨category, hfound, hactive, hsupports, fun id hid => ?_⟩
    subst hid
    simp only [bind_eq_ok, orError_eq_ok, check_eq_ok, Option.filter_eq_some_iff, Bool.and_eq_true, Bool.not_eq_true'] at hselection
    obtain ⟨issue, ⟨hissue, hdeleted, hactive⟩, _, hcategory, -⟩ := hselection
    exact ⟨issue, hissue, hdeleted, hactive, hcategory⟩
  · rintro ⟨category, hfound, hactive, hsupports, hissue⟩
    cases issueTypeId with
    | none => exact ⟨(category, none), category, ⟨hfound, hactive⟩, (), hsupports, rfl⟩
    | some id =>
      obtain ⟨issue, hid, hdeleted, hactive', hcategory⟩ := hissue id rfl
      refine ⟨(category, some issue), category, ⟨hfound, hactive⟩, (), hsupports, ?_⟩
      simp only [bind_eq_ok, orError_eq_ok, check_eq_ok, Option.filter_eq_some_iff, Bool.and_eq_true, Bool.not_eq_true']
      exact ⟨issue, ⟨hid, hdeleted, hactive'⟩, (), hcategory, rfl⟩

/-! ## The rule that matches a request -/

/-- The rule that matches the text of a request. -/
def matchedRule (toLowerCase : Units → Units) (s : Services) (keywordRules : List TicketKeywordRule)
    (text : String) (ticketType : TicketType) : Option TicketKeywordRule :=
  matchKeywordRules toLowerCase s keywordRules (units text) (some ticketType)

/-- The services with the keyword rules of the table. -/
def Services.routedBy (toLowerCase : Units → Units) (keywordRules : List TicketKeywordRule) (s : Services) : Services :=
  { s with
    matchKeywordRules := fun text ticketType =>
      (matchedRule toLowerCase s keywordRules text ticketType).map TicketKeywordRule.target }

/-- The rule that a request is routed by. Keyword rules never replace the routing of Specialized Concerns. -/
def routingRule (toLowerCase : Units → Units) (s : Services) (keywordRules : List TicketKeywordRule) (dto : CreateTicketDto) :
    Option TicketKeywordRule :=
  if dto.ticketType = .specialized_concerns then none
  else matchedRule toLowerCase s keywordRules (dto.subject ++ " " ++ dto.description) dto.ticketType

/-- End users never select an issue. -/
def selectedIssue (dto : CreateTicketDto) (caller : Actor) : Option Nat :=
  if caller.role = .user then none else dto.issueTypeId

/-- The rule has no issue of its own, and its category is not that of the selected issue. -/
def Mixes (s : Services) (rule : TicketKeywordRule) (issueTypeId : Option Nat) : Prop :=
  rule.targetIssueTypeId = none ∧ ∃ id issue, issueTypeId = some id ∧ s.issueTypes id = some issue ∧
    ∀ category, rule.targetCategory s = some category → issue.categoryId ≠ some category.id

theorem fits_of_isRoutable {rule : TicketKeywordRule} (h : rule.isRoutable s = true) :
    ∃ id category, rule.targetCategoryId = some id ∧ rule.targetCategory s = some category ∧
      Fits s rule.targetTicketType id rule.targetIssueTypeId category := by
  unfold TicketKeywordRule.isRoutable at h
  rw [Option.any_eq_true] at h
  obtain ⟨category, hcategory, h⟩ := h
  obtain ⟨id, hid, hfound⟩ := Option.bind_eq_some_iff.mp hcategory
  simp only [Bool.and_eq_true, Bool.or_eq_true, Bool.not_eq_true'] at h
  obtain ⟨⟨⟨hdeleted, hactive⟩, hsupports⟩, hissue⟩ := h
  refine ⟨id, category, hid, hcategory, hfound, ⟨hdeleted, hactive⟩, hsupports, fun issueId hissueId => ?_⟩
  unfold TicketKeywordRule.targetIssueType at hissue
  rw [hissueId, Option.isNone_some, Option.bind_some, Option.any_eq_true] at hissue
  rcases hissue with hnone | ⟨issue, hfound, hissue⟩
  · cases hnone
  · simp only [Bool.and_eq_true, Bool.not_eq_true', decide_eq_true_eq] at hissue
    exact ⟨issue, hfound, hissue.1.1, hissue.1.2, hissue.2⟩

theorem routingRule_isRoutable {toLowerCase : Units → Units} {keywordRules : List TicketKeywordRule} {dto : CreateTicketDto}
    {rule : TicketKeywordRule} (h : routingRule toLowerCase s keywordRules dto = some rule) : rule.isRoutable s = true := by
  unfold routingRule at h
  split_ifs at h
  exact (matchKeywordRules_mem h).2

/-! ## The routing that is filed -/

/-- The selection after the rule: what the rule names goes before what was selected. -/
theorem filedRouting_eq {toLowerCase : Units → Units} {keywordRules : List TicketKeywordRule} {dto : CreateTicketDto}
    {caller : Actor} (hstaff : caller.role = .user ∨ dto.issueTypeId.isSome = true)
    (hissue : ∀ id, selectedIssue dto caller = some id →
      ∃ issue, s.issueTypes id = some issue ∧ issue.isDeleted = false ∧ issue.isActive = true)
    {ticketType : TicketType} {categoryId : Nat} {issueTypeId : Option Nat}
    (htype : (routingRule toLowerCase s keywordRules dto).elim dto.ticketType TicketKeywordRule.targetTicketType = ticketType)
    (hcategory : ((routingRule toLowerCase s keywordRules dto).bind TicketKeywordRule.targetCategoryId <|> dto.categoryId) =
      some categoryId)
    (hissueTypeId : ((routingRule toLowerCase s keywordRules dto).bind TicketKeywordRule.targetIssueTypeId <|>
      selectedIssue dto caller) = issueTypeId) :
    filedRouting (s.routedBy toLowerCase keywordRules) dto caller =
      (validateRoutingSelection s ticketType categoryId issueTypeId).map fun selection =>
        { ticketType, categoryId := some categoryId, issueTypeId
          issueType := (selection.2.map TicketIssueType.key).getD "other" } := by
  have hrule : (if dto.ticketType = .specialized_concerns then none
      else (s.routedBy toLowerCase keywordRules).matchKeywordRules (dto.subject ++ " " ++ dto.description) dto.ticketType) =
      (routingRule toLowerCase s keywordRules dto).map TicketKeywordRule.target := by
    unfold routingRule
    split_ifs <;> rfl
  have htarget {β : Type} (f : KeywordTarget → Option β) : ((routingRule toLowerCase s keywordRules dto).map
      TicketKeywordRule.target).bind f = (routingRule toLowerCase s keywordRules dto).bind fun rule => f rule.target := by
    cases routingRule toLowerCase s keywordRules dto <;> rfl
  have hselected : (selectedIssue dto caller).all (fun id =>
      ((s.routedBy toLowerCase keywordRules).issueTypes id).any fun issue => !issue.isDeleted && issue.isActive) = true := by
    cases hid : selectedIssue dto caller with
    | none => rfl
    | some id =>
      obtain ⟨issue, hfound, hdeleted, hactive⟩ := hissue id hid
      have hfound' : (s.routedBy toLowerCase keywordRules).issueTypes id = some issue := hfound
      rw [Option.all_some, hfound', Option.any_some, hdeleted, hactive]
      rfl
  unfold selectedIssue at hselected hissueTypeId
  unfold filedRouting
  dsimp only
  rw [check, if_pos hstaff, check, if_pos hselected, hrule, htarget, htarget]
  have htype' : (((routingRule toLowerCase s keywordRules dto).map TicketKeywordRule.target).map
      KeywordTarget.targetTicketType).getD dto.ticketType = ticketType := by
    rw [← htype]
    cases routingRule toLowerCase s keywordRules dto <;> rfl
  have hcategory' : ((routingRule toLowerCase s keywordRules dto).bind (fun rule => rule.target.targetCategoryId) <|>
      dto.categoryId) = some categoryId := hcategory
  have hissue' : ((routingRule toLowerCase s keywordRules dto).bind (fun rule => rule.target.targetIssueTypeId) <|>
      if caller.role = .user then none else dto.issueTypeId) = issueTypeId := hissueTypeId
  rw [htype', hcategory', hissue']
  show (validateRoutingSelection s ticketType categoryId issueTypeId >>= _) = _
  cases validateRoutingSelection s ticketType categoryId issueTypeId <;> rfl

theorem filed_iff {ticketType : TicketType} {categoryId : Nat} {issueTypeId : Option Nat}
    {filed : Except HttpException TicketRouting} {text : TicketCategoryConfig × Option TicketIssueType → String}
    (h : filed = (validateRoutingSelection s ticketType categoryId issueTypeId).map fun selection =>
      { ticketType, categoryId := some categoryId, issueTypeId, issueType := text selection }) :
    (∃ routing category, filed = .ok routing ∧ routing.categoryId = some category ∧
      ∃ selection, validateRoutingSelection s routing.ticketType category routing.issueTypeId = .ok selection) ↔
    ∃ category, Fits s ticketType categoryId issueTypeId category := by
  rw [h, ← validateRoutingSelection_isOk]
  constructor
  · rintro ⟨routing, category, hrouting, -, -⟩
    obtain ⟨selection, hselection, -⟩ := map_eq_ok.mp hrouting
    exact ⟨selection, hselection⟩
  · rintro ⟨selection, hselection⟩
    rw [hselection]
    exact ⟨_, categoryId, rfl, rfl, selection, hselection⟩

/-- **Auto-shift and valid selections.** A request with a valid selection is filed, with a selection that is accepted, where
the rule that routes it does not put its category over the selected issue; there it is rejected. -/
theorem auto_shift_accepts (toLowerCase : Units → Units) (s : Services) (keywordRules : List TicketKeywordRule)
    (dto : CreateTicketDto) (caller : Actor) {categoryId : Nat} (hcategory : dto.categoryId = some categoryId)
    (hstaff : caller.role = .user ∨ dto.issueTypeId.isSome = true)
    (hselected : ∃ selection,
      validateRoutingSelection s dto.ticketType categoryId (selectedIssue dto caller) = .ok selection) :
    (∃ routing category, filedRouting (s.routedBy toLowerCase keywordRules) dto caller = .ok routing ∧
      routing.categoryId = some category ∧
      ∃ selection, validateRoutingSelection s routing.ticketType category routing.issueTypeId = .ok selection) ↔
    ∀ rule, routingRule toLowerCase s keywordRules dto = some rule → ¬ Mixes s rule (selectedIssue dto caller) := by
  obtain ⟨selected, hfits⟩ := validateRoutingSelection_isOk.mp hselected
  have hissue : ∀ id, selectedIssue dto caller = some id →
      ∃ issue, s.issueTypes id = some issue ∧ issue.isDeleted = false ∧ issue.isActive = true := by
    intro id hid
    obtain ⟨issue, hfound, hdeleted, hactive, -⟩ := hfits.issue id hid
    exact ⟨issue, hfound, hdeleted, hactive⟩
  cases hrule : routingRule toLowerCase s keywordRules dto with
  | none =>
    have hfound : ((routingRule toLowerCase s keywordRules dto).bind TicketKeywordRule.targetCategoryId <|> dto.categoryId) =
        some categoryId := by
      rw [hrule]
      exact hcategory
    rw [filed_iff (filedRouting_eq hstaff hissue rfl hfound rfl), hrule]
    refine ⟨fun _ rule hnone => ?_, fun _ => ⟨selected, hfits⟩⟩
    cases hnone
  | some rule =>
    obtain ⟨id, category, hid, htarget, hrouted⟩ := fits_of_isRoutable (routingRule_isRoutable hrule)
    have hfound : ((routingRule toLowerCase s keywordRules dto).bind TicketKeywordRule.targetCategoryId <|> dto.categoryId) =
        some id := by
      rw [hrule, Option.bind_some, hid]
      rfl
    rw [filed_iff (filedRouting_eq hstaff hissue rfl hfound rfl), hrule]
    constructor
    · rintro ⟨other, hother⟩ rule' hrule' ⟨hnone, issueId, issue, hselectedId, hissueRow, hapart⟩
      cases hrule'
      rw [Option.bind_some, hnone, hselectedId] at hother
      obtain ⟨row, hrow, -, -, hbelongs⟩ := hother.issue issueId rfl
      obtain rfl := Option.some.inj (hrow.symm.trans hissueRow)
      obtain rfl := Option.some.inj (hother.found.symm.trans hrouted.found)
      exact hapart other htarget hbelongs
    · intro hnot
      refine ⟨category, hrouted.found, hrouted.active, hrouted.supports, fun issueId hissueId => ?_⟩
      rcases orElse_eq_some.mp hissueId with hown | ⟨hnone, hkept⟩
      · exact hrouted.issue issueId hown
      · -- the selected issue stays, so it has to be of the rule's category
        obtain ⟨issue, hissueRow, hdeleted, hactive, -⟩ := hfits.issue issueId hkept
        refine ⟨issue, hissueRow, hdeleted, hactive, ?_⟩
        by_contra hapart
        refine hnot rule rfl ⟨hnone, issueId, issue, hkept, hissueRow, fun other hother => ?_⟩
        obtain rfl := Option.some.inj (hother.symm.trans htarget)
        exact hapart

/-! ## A rule of a category -/

/-- Printers are their own category of IT support. -/
def printerDesk : Services :=
  { office 0 with categories := fun id => if id = 1 ∨ id = 2 then some { id, isIt := true } else none }

def printerRule : TicketKeywordRule where
  keyword := units "printer"
  targetTicketType := .it_support
  targetCategoryId := some 2

/-- The request of a staff member, with the network issue of category 1. -/
def printerRequest : CreateTicketDto :=
  { subject := "printer", description := "off the network", ticketType := .it_support, categoryId := some 1, issueTypeId := some 1 }

theorem routingRule_printer : routingRule id printerDesk [printerRule] printerRequest = some printerRule := by
  have hrules : routableRules printerDesk [printerRule] = [printerRule] := by decide +kernel
  have hlead : leadingKeyword (units "printer off the network") [printerRule] printerRule = some (units "printer") := by
    decide +kernel
  have hroute : route (units "printer off the network") (some .it_support) [printerRule] = some printerRule := by
    rw [route_of_lead (List.nil_append _).symm (fun other hother => absurd hother List.not_mem_nil) hlead]
    decide +kernel
  show route _ (some .it_support) (routableRules printerDesk [printerRule]) = some printerRule
  rw [hrules]
  exact hroute

/-- A regular user's issue is not kept, so the rule's category is filed. -/
theorem auto_shift_accepts_of_user : ∃ routing category,
    filedRouting (printerDesk.routedBy id [printerRule]) printerRequest (officeActor 1) = .ok routing ∧
      routing.categoryId = some category ∧
      ∃ selection, validateRoutingSelection printerDesk routing.ticketType category routing.issueTypeId = .ok selection := by
  refine (auto_shift_accepts id printerDesk [printerRule] printerRequest (officeActor 1) rfl (.inl rfl) ⟨_, rfl⟩).mpr ?_
  rintro rule - ⟨-, issueId, _, hissue, -⟩
  cases hissue

/-- The selection is valid, and the rule's category does not have the selected issue. -/
theorem auto_shift_rejects : ¬ ∀ (toLowerCase : Units → Units) (s : Services) (keywordRules : List TicketKeywordRule)
    (dto : CreateTicketDto) (caller : Actor) (categoryId : Nat), dto.categoryId = some categoryId →
      caller.role = .user ∨ dto.issueTypeId.isSome = true →
      (∃ selection, validateRoutingSelection s dto.ticketType categoryId (selectedIssue dto caller) = .ok selection) →
      ∃ routing, filedRouting (s.routedBy toLowerCase keywordRules) dto caller = .ok routing := by
  intro hall
  obtain ⟨routing, hrouting⟩ := hall id printerDesk [printerRule] printerRequest (officeActor 2) 1 rfl (.inr rfl) ⟨_, rfl⟩
  have hissue : ∀ id, selectedIssue printerRequest (officeActor 2) = some id →
      ∃ issue, printerDesk.issueTypes id = some issue ∧ issue.isDeleted = false ∧ issue.isActive = true := by
    intro id hid
    cases hid
    exact ⟨_, rfl, rfl, rfl⟩
  have hcategory : ((routingRule id printerDesk [printerRule] printerRequest).bind TicketKeywordRule.targetCategoryId <|>
      printerRequest.categoryId) = some 2 := by
    rw [routingRule_printer]
    rfl
  rw [filedRouting_eq (.inr rfl) hissue rfl hcategory rfl, routingRule_printer] at hrouting
  obtain ⟨selection, hselection, -⟩ := map_eq_ok.mp hrouting
  have hrejected : validateRoutingSelection printerDesk .it_support 2 (some 1) =
      .error (.badRequest "Selected issue does not belong to the selected category.") := rfl
  cases hrejected.symm.trans hselection

end ComplianceHub.Tickets
