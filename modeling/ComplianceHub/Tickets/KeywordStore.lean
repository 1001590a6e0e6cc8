import ComplianceHub.Lib.Run
import ComplianceHub.Tickets.AutoShift
import Mathlib.Data.List.DropRight

/-!
# The stored keyword rules

* `createKeywordRule`, `updateKeywordRule` : the calls that write rules, `keywordCalls` their accepted sequences;
* `LowerCasing` : what the rules need of the language's lower case;
* `WellKept` : the list of a rule and its primary keyword;
* `Sound` : every rule is well kept, and matches a text by a keyword only;
* `NamesKeyword` : an update whose keywords are not all blank (`wellKept_updatedKeywords`, `sound_step`);
* `keyword_store_sound_iff` : the sequences of calls after which the store is sound.

A uuid is a number; an empty id is `none`. `createdBy` and the times of a row are left out.
-/

namespace ComplianceHub.Tickets

open ComplianceHub.Lib

/-! ## Calls -/

structure StoredKeywordRule extends TicketKeywordRule where
  id : Nat
deriving DecidableEq, Repr

structure CreateKeywordRuleDto where
  keyword : Option Units := none
  keywords : Option (List Units) := none
  targetTicketType : String
  targetCategoryId : Option Nat := none
  targetIssueTypeId : Option Nat := none
  isActive : Option Bool := none

/-- An id that is given and empty is `some none`. -/
structure UpdateKeywordRuleDto where
  keyword : Option Units := none
  keywords : Option (List Units) := none
  targetTicketType : Option String := none
  targetCategoryId : Option (Option Nat) := none
  targetIssueTypeId : Option (Option Nat) := none
  isActive : Option Bool := none

def trimUnits (text : Units) : Units := ((text.dropWhile isSpaceUnit).reverse.dropWhile isSpaceUnit).reverse

def ticketTypeOf : String → Except HttpException TicketType
  | "desktop_support" => .ok .desktop_support
  | "it_support" => .ok .it_support
  | "pantawid_ict_support" => .ok .pantawid_ict_support
  | "specialized_concerns" => .ok .specialized_concerns
  | _ => .error (.badRequest
      "targetTicketType must be desktop_support, it_support, pantawid_ict_support, or specialized_concerns")

/-- `validateRoutingSelection`, on rows that need not be active where `activeOnly` is not set. -/
def validateSelection (s : Services) (ticketType : TicketType) (categoryId : Nat) (issueTypeId : Option Nat)
    (activeOnly : Bool) : Except HttpException Unit := do
  let category ← orError ((s.categories categoryId).filter fun c => !c.isDeleted && (!activeOnly || c.isActive))
    (.badRequest "Selected category is invalid or inactive.")
  check (categorySupportsTicketType category ticketType)
    (.badRequest "Selected category does not belong to the selected support type.")
  match issueTypeId with
  | none => .ok ()
  | some id => do
    let issueType ← orError ((s.issueTypes id).filter fun i => !i.isDeleted && (!activeOnly || i.isActive))
      (.badRequest "Selected issue type is invalid or inactive.")
    check (issueType.categoryId = some category.id)
      (.badRequest "Selected issue does not belong to the selected category.")

section
variable (toLowerCase : Units → Units) (s : Services)

def normalKeyword (k : Units) : Units := toLowerCase (trimUnits k)

/-- The keywords without those that are blank. -/
def keywordsOf (keywords : List Units) : List Units := (keywords.map (normalKeyword toLowerCase)).filter (· ≠ [])

/-- The texts of a list that is given and not empty. -/
def givenKeywords (keywords : Option (List Units)) : Option (List Units) := keywords.filter (· ≠ [])

/-- `keyword?.trim() ? [keyword.trim().toLowerCase()] : []` -/
def singleKeyword : Option Units → List Units
  | some k => if trimUnits k ≠ [] then [normalKeyword toLowerCase k] else []
  | none => []

def createdKeywords (dto : CreateKeywordRuleDto) : List Units :=
  match givenKeywords dto.keywords with
  | some keywords => keywordsOf toLowerCase keywords
  | none => singleKeyword toLowerCase dto.keyword

def nextRuleId (rules : List StoredKeywordRule) : Nat := (rules.map (·.id)).foldl max 0 + 1

def createdRule (dto : CreateKeywordRuleDto) (id : Nat) : Except HttpException StoredKeywordRule := do
  match createdKeywords toLowerCase dto with
  | [] => .error (.badRequest "At least one keyword is required")
  | primary :: rest => do
    let targetTicketType ← ticketTypeOf dto.targetTicketType
    let targetCategoryId ← orError dto.targetCategoryId
      (.badRequest "targetCategoryId is required when creating a keyword rule")
    validateSelection s targetTicketType targetCategoryId dto.targetIssueTypeId (dto.isActive.getD true)
    .ok { id
          keyword := primary
          keywords := some (primary :: rest)
          targetTicketType
          targetCategoryId := some targetCategoryId
          targetIssueTypeId := dto.targetIssueTypeId
          isActive := dto.isActive.getD true }

def createKeywordRule (dto : CreateKeywordRuleDto) (rules : List StoredKeywordRule) :
    Except HttpException (List StoredKeywordRule) := do
  let rule ← createdRule toLowerCase s dto (nextRuleId rules)
  .ok (rules ++ [rule])

/-- `existing[0] = keyword` -/
def setFirst (keyword : Units) : List Units → List Units
  | [] => [keyword]
  | _ :: rest => keyword :: rest

def withKeywords (keywords : List Units) (rule : TicketKeywordRule) : TicketKeywordRule :=
  let kwList := keywordsOf toLowerCase keywords
  -- without a first one the keyword is undefined, which is not saved
  { rule with keywords := some kwList, keyword := kwList.head?.getD rule.keyword }

def withKeyword (k : Units) (rule : TicketKeywordRule) : TicketKeywordRule :=
  let keyword := normalKeyword toLowerCase k
  { rule with keyword, keywords := some (setFirst keyword (rule.keywords.getD [keyword])) }

def updatedKeywords (dto : UpdateKeywordRuleDto) (rule : TicketKeywordRule) : TicketKeywordRule :=
  match givenKeywords dto.keywords, dto.keyword with
  | some keywords, _ => withKeywords toLowerCase keywords rule
  | none, some k => withKeyword toLowerCase k rule
  | none, none => rule

def validateIfActive (ticketType : TicketType) (categoryId : Nat) (issueTypeId : Option Nat) (isActive : Bool) :
    Except HttpException Unit :=
  if isActive then validateSelection s ticketType categoryId issueTypeId true else .ok ()

def updatedRule (dto : UpdateKeywordRuleDto) (rule : StoredKeywordRule) : Except HttpException StoredKeywordRule := do
  let nextTicketType ← (dto.targetTicketType.map ticketTypeOf).getD (.ok rule.targetTicketType)
  let nextCategoryId ← orError (dto.targetCategoryId.getD rule.targetCategoryId)
    (.badRequest "targetCategoryId is required when updating a keyword rule")
  let nextIssueTypeId := dto.targetIssueTypeId.getD rule.targetIssueTypeId
  let nextIsActive := dto.isActive.getD rule.isActive
  validateIfActive s nextTicketType nextCategoryId nextIssueTypeId nextIsActive
  .ok { updatedKeywords toLowerCase dto rule.toTicketKeywordRule with
        id := rule.id
        targetTicketType := nextTicketType
        targetCategoryId := some nextCategoryId
        targetIssueTypeId := nextIssueTypeId
        isActive := nextIsActive }

def updateKeywordRule (id : Nat) (dto : UpdateKeywordRuleDto) (rules : List StoredKeywordRule) :
    Except HttpException (List StoredKeywordRule) := do
  let rule ← orError (rules.find? fun rule => rule.id = id) (.notFound ("Keyword rule " ++ toString id ++ " not found"))
  let saved ← updatedRule toLowerCase s dto rule
  .ok (rules.map fun row => if row.id = id then saved else row)

inductive KeywordCall where
  | create (dto : CreateKeywordRuleDto)
  | update (id : Nat) (dto : UpdateKeywordRuleDto)

def KeywordCall.run : KeywordCall → List StoredKeywordRule → Except HttpException (List StoredKeywordRule)
  | create dto => createKeywordRule toLowerCase s dto
  | update id dto => updateKeywordRule toLowerCase s id dto

end

/-- Accepted calls one after the other, from a store without rules. -/
def keywordCalls (toLowerCase : Units → Units) : System (List StoredKeywordRule) (Services × KeywordCall) where
  init rules := rules = []
  step rules l rules' := l.2.run toLowerCase l.1 rules = .ok rules'

/-! ## What is kept of a rule -/

/-- What the rules need of `String.prototype.toLowerCase`: it is settled, and white space is not a letter. -/
structure LowerCasing (toLowerCase : Units → Units) : Prop where
  idempotent : ∀ text, toLowerCase (toLowerCase text) = toLowerCase text
  trimmed : ∀ text, trimUnits text = text → trimUnits (toLowerCase text) = toLowerCase text
  empty : ∀ text, toLowerCase text = [] ↔ text = []

/-- The rules that `matchKeywordRules` finds for a text in lower case. -/
def matchedRules (lower : Units) (rules : List TicketKeywordRule) : List TicketKeywordRule :=
  scan lower none [] ((keywordPairs rules).mergeSort longerFirst)

def typeRules (rules : List StoredKeywordRule) : List TicketKeywordRule := rules.map StoredKeywordRule.toTicketKeywordRule

/-- A list of keywords that are trimmed, in lower case and not empty, the primary one first. -/
structure WellKept (toLowerCase : Units → Units) (rule : TicketKeywordRule) : Prop where
  primary : ∃ rest, rule.keywords = some (rule.keyword :: rest)
  normal : ∀ kw ∈ rule.keywordList, kw ≠ [] ∧ trimUnits kw = kw ∧ toLowerCase kw = kw

/-- Every rule is well kept, matches a text only through a keyword that is not empty, and does not match every text. -/
structure Sound (toLowerCase : Units → Units) (rules : List StoredKeywordRule) : Prop where
  kept : ∀ rule ∈ rules, WellKept toLowerCase rule.toTicketKeywordRule
  matched : ∀ (s : Services) (text : Units), ∀ rule ∈ matchedRules (toLowerCase text) (routableRules s (typeRules rules)),
    ∃ kw ∈ rule.keywordList, kw ≠ [] ∧ fuzzyMatch kw (toLowerCase text) = true
  selective : ∀ rule ∈ rules, ∃ text, ∀ s : Services,
    rule.toTicketKeywordRule ∉ matchedRules (toLowerCase text) (routableRules s (typeRules rules))

/-- The keywords that an update gives are not all blank. -/
def NamesKeyword (toLowerCase : Units → Units) (dto : UpdateKeywordRuleDto) : Prop :=
  match givenKeywords dto.keywords, dto.keyword with
  | some keywords, _ => keywordsOf toLowerCase keywords ≠ []
  | none, some k => normalKeyword toLowerCase k ≠ []
  | none, none => True

def KeywordCall.Names (toLowerCase : Units → Units) : KeywordCall → Prop
  | create _ => True
  | update _ dto => NamesKeyword toLowerCase dto

section
variable {toLowerCase : Units → Units} {lower kw : Units} {rule : TicketKeywordRule} {rules matched : List TicketKeywordRule}
variable {pairs : List (TicketKeywordRule × Units)}

theorem scan_matched (matchedKw : Option Units) (matched : List TicketKeywordRule) (pairs : List (TicketKeywordRule × Units))
    (h : rule ∈ scan lower matchedKw matched pairs) :
    rule ∈ matched ∨ ∃ kw, (rule, kw) ∈ pairs ∧ fuzzyMatch kw lower = true := by
  induction pairs generalizing matchedKw matched with
  | nil => exact .inl h
  | cons pair rest ih =>
    obtain ⟨own, kw⟩ := pair
    have later (h : rule ∈ matched ∨ ∃ kw, (rule, kw) ∈ rest ∧ fuzzyMatch kw lower = true) :
        rule ∈ matched ∨ ∃ kw', (rule, kw') ∈ (own, kw) :: rest ∧ fuzzyMatch kw' lower = true :=
      h.imp_right fun ⟨kw', hmem, hmatch⟩ => ⟨kw', List.mem_cons_of_mem _ hmem, hmatch⟩
    unfold scan at h
    dsimp only at h
    split_ifs at h with hshorter hother hmatch
    · exact .inl h
    · exact later (ih _ _ h)
    · rcases ih _ _ h with hmatched | ⟨kw', hmem, hmatch'⟩
      · rcases List.mem_append.mp hmatched with hmatched | hown
        · exact .inl hmatched
        · rw [List.mem_singleton.mp hown]
          exact .inr ⟨kw, List.mem_cons_self, hmatch⟩
      · exact .inr ⟨kw', List.mem_cons_of_mem _ hmem, hmatch'⟩
    · exact later (ih _ _ h)

/-- A rule is matched by one of its keywords. -/
theorem matchedRules_matched (h : rule ∈ matchedRules lower rules) :
    rule ∈ rules ∧ ∃ kw ∈ rule.keywordList, fuzzyMatch kw lower = true := by
  rcases scan_matched none [] _ h with hnil | ⟨kw, hpair, hmatch⟩
  · cases hnil
  · obtain ⟨hrule, hkw⟩ := mem_keywordPairs.mp ((List.mergeSort_perm (keywordPairs rules) longerFirst).mem_iff.mp hpair)
    exact ⟨hrule, kw, hkw, hmatch⟩

/-- A keyword that is not empty is not found in the empty text. -/
theorem not_fuzzyMatch_nil (h : kw ≠ []) : fuzzyMatch kw [] = false := by
  have hincludes : includes [] kw = false := by
    cases kw with
    | nil => exact absurd rfl h
    | cons c rest => rfl
  have htext : words [] = [] := rfl
  unfold fuzzyMatch
  rw [if_neg (by simp [hincludes])]
  dsimp only
  split_ifs with hwords
  · rfl
  · simp only [htext, List.any_nil, List.countP_false, decide_eq_false_iff_not]
    intro hlength
    exact hwords (List.length_eq_zero_iff.mp hlength.symm)

theorem mem_routableRules {s : Services} (h : rule ∈ routableRules s rules) : rule ∈ rules :=
  (List.mem_filter.mp (List.mem_filter.mp h).1).1

/-- Well-kept rules make a sound store. -/
theorem sound_of_kept {rules : List StoredKeywordRule} (hlower : LowerCasing toLowerCase)
    (h : ∀ rule ∈ rules, WellKept toLowerCase rule.toTicketKeywordRule) : Sound toLowerCase rules where
  kept := h
  matched s text rule hrule := by
    obtain ⟨hmem, kw, hkw, hmatch⟩ := matchedRules_matched hrule
    obtain ⟨stored, hstored, rfl⟩ := List.mem_map.mp (mem_routableRules hmem)
    exact ⟨kw, hkw, ((h stored hstored).normal kw hkw).1, hmatch⟩
  selective rule hrule := by
    refine ⟨[], fun s hmatched => ?_⟩
    rw [(hlower.empty []).mpr rfl] at hmatched
    obtain ⟨-, kw, hkw, hmatch⟩ := matchedRules_matched hmatched
    rw [not_fuzzyMatch_nil ((h rule hrule).normal kw hkw).1] at hmatch
    cases hmatch

end

/-! ## Calls -/

section
variable {toLowerCase : Units → Units} {s : Services}

theorem mem_keywordsOf {keywords : List Units} {kw : Units} (h : kw ∈ keywordsOf toLowerCase keywords) :
    kw ≠ [] ∧ ∃ k, kw = normalKeyword toLowerCase k := by
  obtain ⟨hmem, hne⟩ := List.mem_filter.mp h
  obtain ⟨k, -, rfl⟩ := List.mem_map.mp hmem
  exact ⟨of_decide_eq_true hne, k, rfl⟩

theorem trimUnits_trimUnits (text : Units) : trimUnits (trimUnits text) = trimUnits text := by
  have hfirst : (trimUnits text).dropWhile isSpaceUnit = trimUnits text := by
    have hprefix : trimUnits text <+: text.dropWhile isSpaceUnit := List.rdropWhile_prefix isSpaceUnit _
    obtain ⟨rest, hrest⟩ := hprefix
    cases htrim : trimUnits text with
    | nil => rfl
    | cons c kept =>
      rw [htrim] at hrest
      have hkept := List.dropWhile_idempotent isSpaceUnit text
      rw [← hrest, List.cons_append, List.dropWhile_eq_self_iff] at hkept
      exact List.dropWhile_cons_of_neg (hkept (Nat.succ_pos _))
  show ((trimUnits text).dropWhile isSpaceUnit).rdropWhile isSpaceUnit = _
  rw [hfirst]
  exact List.rdropWhile_idempotent isSpaceUnit (text.dropWhile isSpaceUnit)

theorem normal_normalKeyword (hlower : LowerCasing toLowerCase) (k : Units) :
    trimUnits (normalKeyword toLowerCase k) = normalKeyword toLowerCase k ∧
      toLowerCase (normalKeyword toLowerCase k) = normalKeyword toLowerCase k :=
  ⟨hlower.trimmed _ (trimUnits_trimUnits k), hlower.idempotent _⟩

/-- A rule is well kept whose list is its keyword and others, all of them from texts that are not blank. -/
theorem wellKept_of_keywords (hlower : LowerCasing toLowerCase) {rule : TicketKeywordRule} {rest : List Units}
    (hkeywords : rule.keywords = some (rule.keyword :: rest))
    (h : ∀ kw ∈ rule.keyword :: rest, kw ≠ [] ∧ ∃ k, kw = normalKeyword toLowerCase k) : WellKept toLowerCase rule where
  primary := ⟨rest, hkeywords⟩
  normal kw hkw := by
    unfold TicketKeywordRule.keywordList at hkw
    rw [hkeywords, Option.getD_some] at hkw
    obtain ⟨hne, k, rfl⟩ := h kw hkw
    exact ⟨hne, normal_normalKeyword hlower k⟩

theorem mem_createdKeywords (hlower : LowerCasing toLowerCase) {dto : CreateKeywordRuleDto} {kw : Units}
    (h : kw ∈ createdKeywords toLowerCase dto) : kw ≠ [] ∧ ∃ k, kw = normalKeyword toLowerCase k := by
  unfold createdKeywords at h
  split at h
  · exact mem_keywordsOf h
  · unfold singleKeyword at h
    split at h
    · split_ifs at h with htext
      · obtain rfl := List.mem_singleton.mp h
        exact ⟨fun hnil => htext ((hlower.empty _).mp hnil), _, rfl⟩
      · cases h
    · cases h

theorem wellKept_created (hlower : LowerCasing toLowerCase) {dto : CreateKeywordRuleDto} {id : Nat}
    {rule : StoredKeywordRule} (h : createdRule toLowerCase s dto id = .ok rule) :
    WellKept toLowerCase rule.toTicketKeywordRule := by
  unfold createdRule at h
  cases hkeywords : createdKeywords toLowerCase dto with
  | nil =>
    rw [hkeywords] at h
    cases h
  | cons primary rest =>
    rw [hkeywords] at h
    simp only [bind_eq_ok] at h
    obtain ⟨_, -, _, -, _, -, hrule⟩ := h
    obtain rfl := Except.ok.inj hrule
    refine wellKept_of_keywords hlower rfl fun kw hkw => ?_
    exact mem_createdKeywords hlower (hkeywords ▸ hkw)

/-- The keyword columns that an accepted update saves. -/
theorem updatedRule_spec {dto : UpdateKeywordRuleDto} {rule saved : StoredKeywordRule}
    (h : updatedRule toLowerCase s dto rule = .ok saved) :
    saved.keyword = (updatedKeywords toLowerCase dto rule.toTicketKeywordRule).keyword ∧
      saved.keywords = (updatedKeywords toLowerCase dto rule.toTicketKeywordRule).keywords := by
  unfold updatedRule at h
  simp only [bind_eq_ok] at h
  obtain ⟨_, -, _, -, _, -, hrule⟩ := h
  obtain rfl := Except.ok.inj hrule
  exact ⟨rfl, rfl⟩

theorem wellKept_congr {rule rule' : TicketKeywordRule} (hkeyword : rule.keyword = rule'.keyword)
    (hkeywords : rule.keywords = rule'.keywords) : WellKept toLowerCase rule ↔ WellKept toLowerCase rule' := by
  have hlist : rule.keywordList = rule'.keywordList := by
    unfold TicketKeywordRule.keywordList
    rw [hkeyword, hkeywords]
  constructor
  · rintro ⟨hprimary, hnormal⟩
    exact ⟨hkeyword ▸ hkeywords ▸ hprimary, hlist ▸ hnormal⟩
  · rintro ⟨hprimary, hnormal⟩
    exact ⟨hkeyword ▸ hkeywords ▸ hprimary, hlist ▸ hnormal⟩

theorem wellKept_withKeywords (hlower : LowerCasing toLowerCase) {keywords : List Units} {rule : TicketKeywordRule} :
    WellKept toLowerCase (withKeywords toLowerCase keywords rule) ↔ keywordsOf toLowerCase keywords ≠ [] := by
  have hmem : ∀ kw ∈ keywordsOf toLowerCase keywords, kw ≠ [] ∧ ∃ k, kw = normalKeyword toLowerCase k := fun _ => mem_keywordsOf
  unfold withKeywords
  cases hlist : keywordsOf toLowerCase keywords with
  | nil =>
    refine iff_of_false ?_ (fun hne => hne rfl)
    rintro ⟨⟨_, hkeywords⟩, -⟩
    cases hkeywords
  | cons first others => exact iff_of_true (wellKept_of_keywords hlower rfl (hlist ▸ hmem)) (List.cons_ne_nil _ _)

theorem wellKept_withKeyword (hlower : LowerCasing toLowerCase) {k : Units} {rule : TicketKeywordRule}
    (h : WellKept toLowerCase rule) :
    WellKept toLowerCase (withKeyword toLowerCase k rule) ↔ normalKeyword toLowerCase k ≠ [] := by
  obtain ⟨old, hold⟩ := h.primary
  have hrest : ∀ kw ∈ old, kw ≠ [] ∧ trimUnits kw = kw ∧ toLowerCase kw = kw := fun kw hkw => h.normal kw (by
    unfold TicketKeywordRule.keywordList
    rw [hold]
    exact List.mem_cons_of_mem _ hkw)
  have hkeywords : (withKeyword toLowerCase k rule).keywords = some (normalKeyword toLowerCase k :: old) := by
    unfold withKeyword
    rw [hold]
    rfl
  have hlist : (withKeyword toLowerCase k rule).keywordList = normalKeyword toLowerCase k :: old := by
    unfold TicketKeywordRule.keywordList
    rw [hkeywords]
    rfl
  constructor
  · intro hkept
    exact (hkept.normal _ (hlist ▸ List.mem_cons_self)).1
  · intro hne
    refine ⟨⟨old, hkeywords⟩, fun kw hkw => ?_⟩
    rw [hlist] at hkw
    rcases List.mem_cons.mp hkw with rfl | hkw
    · exact ⟨hne, normal_normalKeyword hlower k⟩
    · exact hrest kw hkw

/-- An update keeps a rule well exactly if the keywords that it gives are not all blank. -/
theorem wellKept_updatedKeywords (hlower : LowerCasing toLowerCase) {dto : UpdateKeywordRuleDto} {rule : TicketKeywordRule}
    (h : WellKept toLowerCase rule) :
    WellKept toLowerCase (updatedKeywords toLowerCase dto rule) ↔ NamesKeyword toLowerCase dto := by
  unfold updatedKeywords NamesKeyword
  split
  · exact wellKept_withKeywords hlower
  · exact wellKept_withKeyword hlower h
  · exact iff_of_true h True.intro

/-- An accepted call keeps the store sound exactly if its keywords are not all blank. -/
theorem sound_step (hlower : LowerCasing toLowerCase) {call : KeywordCall} {rules rules' : List StoredKeywordRule}
    (h : Sound toLowerCase rules) (hcall : call.run toLowerCase s rules = .ok rules') :
    Sound toLowerCase rules' ↔ call.Names toLowerCase := by
  cases call with
  | create dto =>
    obtain ⟨rule, hrule, hrules⟩ := bind_eq_ok.mp (show createKeywordRule toLowerCase s dto rules = .ok rules' from hcall)
    obtain rfl := Except.ok.inj hrules
    refine iff_of_true (sound_of_kept hlower fun other hother => ?_) True.intro
    rcases List.mem_append.mp hother with hother | hother
    · exact h.kept other hother
    · rw [List.mem_singleton.mp hother]
      exact wellKept_created hlower hrule
  | update id dto =>
    obtain ⟨rule, hfind, hrest⟩ := bind_eq_ok.mp (show updateKeywordRule toLowerCase s id dto rules = .ok rules' from hcall)
    obtain ⟨saved, hsaved, hrules⟩ := bind_eq_ok.mp hrest
    obtain rfl := Except.ok.inj hrules
    have hfound := orError_eq_ok.mp hfind
    have hmem := List.mem_of_find?_eq_some hfound
    have hid : rule.id = id := by simpa using List.find?_some hfound
    obtain ⟨hkeyword, hkeywords⟩ := updatedRule_spec hsaved
    show _ ↔ NamesKeyword toLowerCase dto
    rw [← wellKept_updatedKeywords hlower (h.kept rule hmem), ← wellKept_congr hkeyword hkeywords]
    constructor
    · exact fun hsound => hsound.kept saved (List.mem_map.mpr ⟨rule, hmem, if_pos hid⟩)
    · refine fun hkept => sound_of_kept hlower fun other hother => ?_
      obtain ⟨row, hrow, rfl⟩ := List.mem_map.mp hother
      split
      · exact hkept
      · exact h.kept row hrow

end

theorem lowerCasing_id : LowerCasing id where
  idempotent _ := rfl
  trimmed _ h := h
  empty _ := Iff.rfl

def printerKeyword : CreateKeywordRuleDto where
  keywords := some [units " printer ", units "toner"]
  targetTicketType := "it_support"
  targetCategoryId := some 2

def storedPrinterRule : StoredKeywordRule where
  id := 1
  keyword := units "printer"
  keywords := some [units "printer", units "toner"]
  targetTicketType := .it_support
  targetCategoryId := some 2

theorem run_printer : Run (keywordCalls id) [⟨[], (printerDesk, .create printerKeyword), [storedPrinterRule]⟩]
    [storedPrinterRule] :=
  (Run.init (S := keywordCalls id) (a := []) rfl).step
    (show createKeywordRule id printerDesk printerKeyword [] = .ok [storedPrinterRule] by decide +kernel)

def blankRule : StoredKeywordRule := { storedPrinterRule with keyword := [], keywords := some [[], units "toner"] }

end ComplianceHub.Tickets
