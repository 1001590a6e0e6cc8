import ComplianceHub.Lib.Sort
import ComplianceHub.Tickets.Rules
import Mathlib.Data.List.Dedup

/-!
# Keyword rules

`settingsService.matchKeywordRules` : the rule that routes a text.

* `Units`, `words`, `levenshtein`, `fuzzyMatch` : the texts, and when a keyword is found in one;
* `scan` : the loop over the pairs of a rule and a keyword, the longest keywords first; it locks on to the first that matches;
* `choose` : the rule that is taken of those that hold the keyword;
* `matchKeywordRules_mem` : the rule that routes is one of the active rules with valid targets;
* `route_of_lead` : which rule that is, read off the rules in their order: the first rule that holds a longest keyword
  that matches locks its first one, and the rules that hold it are chosen from.
-/

namespace ComplianceHub.Tickets

open ComplianceHub.Lib

/-! ## Texts -/

/-- A text as the language has it: its UTF-16 code units. -/
abbrev Units := List UInt16

def codeUnits (c : Char) : Units :=
  if c.toNat < 0x10000 then [c.toNat.toUInt16]
  else [(0xd800 + (c.toNat - 0x10000) / 0x400).toUInt16, (0xdc00 + (c.toNat - 0x10000) % 0x400).toUInt16]

def units (text : String) : Units := text.toList.flatMap codeUnits

/-- The class `\s` of a regular expression. -/
def isSpaceUnit (c : UInt16) : Bool :=
  (9 ≤ c && c ≤ 13) || c = 32 || c = 0xa0 || c = 0x1680 || (0x2000 ≤ c && c ≤ 0x200a) || c = 0x2028 || c = 0x2029 ||
    c = 0x202f || c = 0x205f || c = 0x3000 || c = 0xfeff

/-- `split(/\s+/).filter(Boolean)` -/
def words (text : Units) : List Units := (text.splitOnP isSpaceUnit).filter fun word => word ≠ []

def includes (text part : Units) : Bool := text.tails.any fun rest => part.isPrefixOf rest

/-- The entries of a row of the matrix behind its first, from the row above. -/
def matrixEntries (x : UInt16) : Nat → Units → List Nat → List Nat
  | left, y :: b, diagonal :: up :: above =>
    let entry := min (min (up + 1) (left + 1)) (diagonal + if x = y then 0 else 1)
    entry :: matrixEntries x entry b (up :: above)
  | _, _, _ => []

def levenshtein (a b : Units) : Nat :=
  if a = [] then b.length
  else if b = [] then a.length
  else
    let lastRow := (a.zipIdx 1).foldl (fun above (x, i) => i :: matrixEntries x i b above) (List.range (b.length + 1))
    lastRow.getLast?.getD 0

/-- Allow up to 1 typo for short words (>=4 chars), 2 for longer ones. -/
def allowedTypos (kwWord : Units) : Nat := if 6 ≤ kwWord.length then 2 else if 4 ≤ kwWord.length then 1 else 0

/-- Every word of the keyword is found in the text, allowing typos and disregarding order. -/
def fuzzyMatch (kw lowerText : Units) : Bool :=
  if includes lowerText kw then true
  else
    let kwWords := words kw
    let textWords := words lowerText
    if kwWords = [] then false
    else
      let matchedWords := kwWords.countP fun kwWord =>
        textWords.any fun tWord => tWord = kwWord || levenshtein kwWord tWord ≤ allowedTypos kwWord
      matchedWords = kwWords.length

/-! ## Rules -/

structure TicketKeywordRule where
  /-- Primary keyword (first of the group, kept for display/legacy). -/
  keyword : Units
  /-- All keywords/phrases in this rule. -/
  keywords : Option (List Units) := none
  targetTicketType : TicketType
  targetCategoryId : Option Nat := none
  targetIssueTypeId : Option Nat := none
  isActive : Bool := true
deriving DecidableEq, Repr

namespace TicketKeywordRule

variable (s : Services) (rule : TicketKeywordRule)

def targetCategory : Option TicketCategoryConfig := rule.targetCategoryId.bind s.categories

def targetIssueType : Option TicketIssueType := rule.targetIssueTypeId.bind s.issueTypes

/-- The targets form a valid support-type/category/issue tuple. -/
def isRoutable : Bool :=
  (rule.targetCategory s).any fun category =>
    !category.isDeleted && category.isActive && categorySupportsTicketType category rule.targetTicketType &&
      (rule.targetIssueTypeId.isNone ||
        (rule.targetIssueType s).any fun issue => !issue.isDeleted && issue.isActive && issue.categoryId = some category.id)

def keywordList : List Units := rule.keywords.getD [rule.keyword]

def target : KeywordTarget where
  targetTicketType := rule.targetTicketType
  targetCategoryId := rule.targetCategoryId
  targetIssueTypeId := rule.targetIssueTypeId

end TicketKeywordRule

/-- The flat list of pairs of a rule and one of its keywords. -/
def keywordPairs (rules : List TicketKeywordRule) : List (TicketKeywordRule × Units) :=
  rules.flatMap fun rule => rule.keywordList.map fun kw => (rule, kw)

/-- Longer keywords are matched first. -/
def longerFirst (a b : TicketKeywordRule × Units) : Bool := b.2.length ≤ a.2.length

/-- The loop over the pairs. An empty keyword that has matched counts as none. -/
def scan (lower : Units) : Option Units → List TicketKeywordRule → List (TicketKeywordRule × Units) → List TicketKeywordRule
  | _, matchedRules, [] => matchedRules
  | matchedKw, matchedRules, (rule, kw) :: rest =>
    let locked := matchedKw.filter fun own => own ≠ []
    -- exhausted all keywords of the same length
    if locked.any fun own => kw.length < own.length then matchedRules
    -- other keywords of the same length are not looked at
    else if locked.any fun own => kw ≠ own then scan lower matchedKw matchedRules rest
    else if fuzzyMatch kw lower then scan lower (some kw) (matchedRules ++ [rule]) rest
    else scan lower matchedKw matchedRules rest

def choose (currentTicketType : Option TicketType) (matchedRules : List TicketKeywordRule) : Option TicketKeywordRule :=
  -- Direct Match: Keyword rule exists for the user's selected Support Type
  let directMatch := currentTicketType.bind fun type => matchedRules.find? fun rule => rule.targetTicketType = type
  let uniqueTypes := (matchedRules.map TicketKeywordRule.targetTicketType).dedup
  -- Unambiguous Mistake: Keyword only exists in exactly ONE other Support Type
  directMatch <|> if uniqueTypes.length = 1 then matchedRules.head? else none

/-- The rule that routes a text, of rules with valid targets. -/
def route (lower : Units) (currentTicketType : Option TicketType) (rules : List TicketKeywordRule) : Option TicketKeywordRule :=
  choose currentTicketType (scan lower none [] ((keywordPairs rules).mergeSort longerFirst))

def routableRules (s : Services) (keywordRules : List TicketKeywordRule) : List TicketKeywordRule :=
  (keywordRules.filter fun rule => rule.isActive).filter fun rule => rule.isRoutable s

/-- `toLowerCase` is that of the language, on all of Unicode. -/
def matchKeywordRules (toLowerCase : Units → Units) (s : Services) (keywordRules : List TicketKeywordRule) (text : Units)
    (currentTicketType : Option TicketType) : Option TicketKeywordRule :=
  route (toLowerCase text) currentTicketType (routableRules s keywordRules)

/-! ## The rule that is taken -/

section
variable {lower kw : Units} {rule : TicketKeywordRule} {rules matchedRules : List TicketKeywordRule}
variable {pairs : List (TicketKeywordRule × Units)} {type : Option TicketType}

theorem scan_subset (matchedKw : Option Units) (matchedRules : List TicketKeywordRule)
    (pairs : List (TicketKeywordRule × Units)) (h : rule ∈ scan lower matchedKw matchedRules pairs) :
    rule ∈ matchedRules ∨ rule ∈ pairs.map Prod.fst := by
  induction pairs generalizing matchedKw matchedRules with
  | nil => exact .inl h
  | cons pair rest ih =>
    obtain ⟨own, kw⟩ := pair
    unfold scan at h
    dsimp only at h
    split_ifs at h
    · exact .inl h
    · exact (ih _ _ h).imp_right (List.mem_cons_of_mem own)
    · rcases ih _ _ h with hmatched | hrest
      · rcases List.mem_append.mp hmatched with hmatched | hown
        · exact .inl hmatched
        · rw [List.mem_singleton.mp hown]
          exact .inr List.mem_cons_self
      · exact .inr (List.mem_cons_of_mem own hrest)
    · exact (ih _ _ h).imp_right (List.mem_cons_of_mem own)

theorem choose_mem (h : choose type matchedRules = some rule) : rule ∈ matchedRules := by
  unfold choose at h
  dsimp only at h
  rcases orElse_eq_some.mp h with hdirect | ⟨-, hfirst⟩
  · obtain ⟨_, -, hfound⟩ := Option.bind_eq_some_iff.mp hdirect
    exact List.mem_of_find?_eq_some hfound
  · split_ifs at hfirst
    exact List.mem_of_head? hfirst

theorem mem_keywordPairs : (rule, kw) ∈ keywordPairs rules ↔ rule ∈ rules ∧ kw ∈ rule.keywordList := by
  unfold keywordPairs
  simp only [List.mem_flatMap, List.mem_map, Prod.mk.injEq]
  constructor
  · rintro ⟨_, hrule, _, hkw, rfl, rfl⟩
    exact ⟨hrule, hkw⟩
  · rintro ⟨hrule, hkw⟩
    exact ⟨rule, hrule, kw, hkw, rfl, rfl⟩

theorem route_mem (h : route lower type rules = some rule) : rule ∈ rules := by
  rcases scan_subset none [] _ (choose_mem h) with hnil | hpair
  · cases hnil
  · obtain ⟨⟨own, kw⟩, hmem, rfl⟩ := List.mem_map.mp hpair
    exact (mem_keywordPairs.mp ((List.mergeSort_perm (keywordPairs rules) longerFirst).mem_iff.mp hmem)).1

/-- The rule that routes is one of the active rules with valid targets. -/
theorem matchKeywordRules_mem {toLowerCase : Units → Units} {s : Services} {keywordRules : List TicketKeywordRule}
    {text : Units} (h : matchKeywordRules toLowerCase s keywordRules text type = some rule) :
    rule ∈ keywordRules ∧ rule.isRoutable s = true := by
  obtain ⟨hrule, hroutable⟩ := List.mem_filter.mp (route_mem h)
  exact ⟨(List.mem_filter.mp hrule).1, hroutable⟩

/-! ## The loop, read off the order of the rules -/

theorem longerFirst_trans (a b c : TicketKeywordRule × Units) (hab : longerFirst a b = true) (hbc : longerFirst b c = true) :
    longerFirst a c = true := by
  simp only [longerFirst, decide_eq_true_eq] at *
  omega

theorem longerFirst_total (a b : TicketKeywordRule × Units) : (longerFirst a b || longerFirst b a) = true := by
  simp only [longerFirst, Bool.or_eq_true, decide_eq_true_eq]
  omega

/-- Once a keyword is locked, the rest of the loop collects the rules that hold it. -/
theorem scan_locked (hkw : fuzzyMatch kw lower = true) (matchedRules : List TicketKeywordRule)
    (hsorted : pairs.Pairwise fun a b => longerFirst a b = true) (hshorter : ∀ pair ∈ pairs, pair.2.length ≤ kw.length) :
    scan lower (some kw) matchedRules pairs =
      matchedRules ++ (pairs.filter fun pair => pair.2 = kw).map Prod.fst := by
  induction pairs generalizing matchedRules with
  | nil => simp [scan]
  | cons pair rest ih =>
    obtain ⟨rule, own⟩ := pair
    obtain ⟨hbelow, hrest⟩ := List.pairwise_cons.mp hsorted
    have hown : own.length ≤ kw.length := hshorter (rule, own) List.mem_cons_self
    have hshorter' : ∀ pair ∈ rest, pair.2.length ≤ kw.length := fun pair hpair =>
      hshorter pair (List.mem_cons_of_mem _ hpair)
    by_cases hsame : own = kw
    · -- the locked keyword, of another rule or once more of the same
      subst hsame
      have hlock : ((some own).filter fun kw => decide (kw ≠ [])).any (fun kw => decide (own.length < kw.length)) = false := by
        cases own <;> simp
      have hlock' : ((some own).filter fun kw => decide (kw ≠ [])).any (fun kw => decide (own ≠ kw)) = false := by
        cases own <;> simp
      unfold scan
      dsimp only
      rw [hlock, hlock', if_neg Bool.false_ne_true, if_neg Bool.false_ne_true, if_pos hkw, ih _ hrest hshorter']
      simp
    · have hne : kw ≠ [] := by
        rintro rfl
        exact hsame (List.eq_nil_of_length_eq_zero (Nat.le_zero.mp hown))
      have hfilter : ((rule, own) :: rest).filter (fun pair => decide (pair.2 = kw)) =
          rest.filter fun pair => decide (pair.2 = kw) := List.filter_cons_of_neg (by simpa using hsame)
      have hlock : (some kw).filter (fun own => decide (own ≠ [])) = some kw := by simp [hne]
      unfold scan
      dsimp only
      rw [hlock, hfilter, Option.any_some, Option.any_some]
      by_cases hshort : own.length < kw.length
      · -- nothing behind is as long
        have hnone : rest.filter (fun pair => decide (pair.2 = kw)) = [] := by
          refine List.filter_eq_nil_iff.mpr fun pair hpair heq => ?_
          have hle : pair.2.length ≤ own.length := of_decide_eq_true (hbelow pair hpair)
          rw [of_decide_eq_true heq] at hle
          omega
        rw [if_pos (decide_eq_true hshort), hnone, List.map_nil, List.append_nil]
      · rw [if_neg (by simpa using hshort), if_pos (decide_eq_true hsame), ih _ hrest hshorter']

theorem scan_sorted (hsorted : pairs.Pairwise fun a b => longerFirst a b = true) : scan lower none [] pairs =
    ((pairs.find? fun pair => fuzzyMatch pair.2 lower).map fun first =>
      (pairs.filter fun pair => pair.2 = first.2).map Prod.fst).getD [] := by
  induction pairs with
  | nil => rfl
  | cons pair rest ih =>
    obtain ⟨rule, own⟩ := pair
    obtain ⟨hbelow, hrest⟩ := List.pairwise_cons.mp hsorted
    unfold scan
    dsimp only
    rw [Option.filter_none, Option.any_none, Option.any_none, if_neg Bool.false_ne_true, if_neg Bool.false_ne_true]
    by_cases hmatch : fuzzyMatch own lower = true
    · rw [if_pos hmatch, scan_locked hmatch _ hrest fun pair hpair => of_decide_eq_true (hbelow pair hpair)]
      simp [hmatch]
    · have hfind : ((rule, own) :: rest).find? (fun pair => fuzzyMatch pair.2 lower) =
          rest.find? fun pair => fuzzyMatch pair.2 lower := by simp [hmatch]
      rw [if_neg hmatch, ih hrest, hfind]
      cases hfound : rest.find? fun pair => fuzzyMatch pair.2 lower with
      | none => rfl
      | some first =>
        have hfirst := List.find?_some hfound
        have hne : own ≠ first.2 := by
          rintro rfl
          exact hmatch hfirst
        rw [Option.map_some, Option.map_some, List.filter_cons_of_neg (by simpa using hne)]

/-- A keyword matches, and no longer one does. -/
def isLongest (lower : Units) (rules : List TicketKeywordRule) (kw : Units) : Bool :=
  fuzzyMatch kw lower && (keywordPairs rules).all fun pair => !fuzzyMatch pair.2 lower || pair.2.length ≤ kw.length

/-- The first of the longest matching keywords, where a rule holds one. -/
def leadingKeyword (lower : Units) (rules : List TicketKeywordRule) (rule : TicketKeywordRule) : Option Units :=
  rule.keywordList.find? (isLongest lower rules)

/-- The rules that hold a keyword, as often as they do. -/
def holders (rules : List TicketKeywordRule) (kw : Units) : List TicketKeywordRule :=
  rules.flatMap fun rule => (rule.keywordList.filter fun own => own = kw).map fun _ => rule

theorem find?_longest : (keywordPairs rules).find? (fun pair => isLongest lower rules pair.2) =
    rules.findSome? fun rule => (leadingKeyword lower rules rule).map fun kw => (rule, kw) := by
  unfold keywordPairs
  rw [List.find?_flatMap]
  congr 1
  funext rule
  rw [List.find?_map]
  rfl

theorem filter_keywordPairs (kw : Units) :
    ((keywordPairs rules).filter fun pair => pair.2 = kw).map Prod.fst = holders rules kw := by
  unfold keywordPairs holders
  rw [List.filter_flatMap, List.map_flatMap]
  congr 1
  funext rule
  rw [List.filter_map, List.map_map]
  rfl

theorem route_eq : route lower type rules = choose type
    (((rules.findSome? fun rule => (leadingKeyword lower rules rule).map fun kw => (rule, kw)).map
      fun first => holders rules first.2).getD []) := by
  have hfilter (kw : Units) : (((keywordPairs rules).mergeSort longerFirst).filter fun pair => pair.2 = kw).map Prod.fst =
      holders rules kw := by
    rw [filter_mergeSort_of_tied longerFirst_trans longerFirst_total, filter_keywordPairs]
    intro a _ b _ ha hb
    simp only [decide_eq_true_eq] at ha hb
    simp [longerFirst, ha, hb]
  have hfind : ((keywordPairs rules).mergeSort longerFirst).find? (fun pair => fuzzyMatch pair.2 lower) =
      (keywordPairs rules).find? fun pair => isLongest lower rules pair.2 :=
    find?_mergeSort longerFirst_trans longerFirst_total _ _
  unfold route
  rw [scan_sorted (List.pairwise_mergeSort longerFirst_trans longerFirst_total _), hfind, find?_longest]
  simp only [hfilter]

/-- The first rule that holds a longest matching keyword locks its first one. -/
theorem route_of_lead {before after : List TicketKeywordRule} (hrules : rules = before ++ rule :: after)
    (hbefore : ∀ other ∈ before, leadingKeyword lower rules other = none)
    (hlead : leadingKeyword lower rules rule = some kw) : route lower type rules = choose type (holders rules kw) := by
  have hfirst : (rules.findSome? fun rule => (leadingKeyword lower rules rule).map fun kw => (rule, kw)) = some (rule, kw) := by
    refine List.findSome?_eq_some_iff.mpr ⟨before, rule, after, hrules, ?_, fun other hother => ?_⟩
    · rw [hlead, Option.map_some]
    · rw [hbefore other hother, Option.map_none]
  rw [route_eq, hfirst, Option.map_some, Option.getD_some]

theorem route_of_none (h : ∀ rule ∈ rules, leadingKeyword lower rules rule = none) : route lower type rules = none := by
  have hnone : (rules.findSome? fun rule => (leadingKeyword lower rules rule).map fun kw => (rule, kw)) = none := by
    refine List.findSome?_eq_none_iff.mpr fun rule hrule => ?_
    rw [h rule hrule, Option.map_none]
  rw [route_eq, hnone]
  cases type <;> rfl

end

end ComplianceHub.Tickets
