import ComplianceHub.Tickets.KeywordRules
import ComplianceHub.Tickets.Operation
import Mathlib.Data.List.Perm.Subperm

/-!
# Keyword routing and the order of the rules

* `Leads`, `Holds` : the rules that may come first, and the rules that are chosen from then;
* `Settles` : what some order of the rules routes to;
* `routing_ignores_order` : the target is the same for every order where all that is settled has one target, and only there.
-/

namespace ComplianceHub.Tickets

open ComplianceHub.Lib

variable {lower kw : Units} {type : Option TicketType} {rule other : TicketKeywordRule}
variable {rules order matchedRules : List TicketKeywordRule}

/-- The rule holds a longest keyword that matches, and this is its first. -/
structure Leads (lower : Units) (rules : List TicketKeywordRule) (rule : TicketKeywordRule) (kw : Units) : Prop where
  mem : rule ∈ rules
  keyword : leadingKeyword lower rules rule = some kw

structure Holds (rules : List TicketKeywordRule) (kw : Units) (rule : TicketKeywordRule) : Prop where
  mem : rule ∈ rules
  keyword : kw ∈ rule.keywordList

/-- What the rules route to when one of them leads and another comes next. -/
inductive Settles (lower : Units) (type : Option TicketType) (rules : List TicketKeywordRule) :
    Option TicketKeywordRule → Prop
  /-- The leading rule is for the selected support type. -/
  | own {rule : TicketKeywordRule} {kw : Units} : Leads lower rules rule kw → type = some rule.targetTicketType →
      Settles lower type rules (some rule)
  /-- Another rule with its keyword is. -/
  | direct {rule other : TicketKeywordRule} {kw : Units} : Leads lower rules rule kw →
      type ≠ some rule.targetTicketType → Holds rules kw other → type = some other.targetTicketType →
      Settles lower type rules (some other)
  /-- None is, and they are all for one support type. -/
  | only {rule : TicketKeywordRule} {kw : Units} : Leads lower rules rule kw →
      (∀ other, Holds rules kw other → type ≠ some other.targetTicketType) →
      (∀ other, Holds rules kw other → other.targetTicketType = rule.targetTicketType) →
      Settles lower type rules (some rule)
  /-- None is, and they are for several. -/
  | ambiguous {rule other : TicketKeywordRule} {kw : Units} : Leads lower rules rule kw →
      (∀ other, Holds rules kw other → type ≠ some other.targetTicketType) →
      Holds rules kw other → other.targetTicketType ≠ rule.targetTicketType → Settles lower type rules none

/-- All that is settled has one target. -/
def Agree (lower : Units) (type : Option TicketType) (rules : List TicketKeywordRule) : Prop :=
  ∀ a b, Settles lower type rules a → Settles lower type rules b →
    a.map TicketKeywordRule.target = b.map TicketKeywordRule.target

/-! ## The choice -/

theorem choose_direct {own : TicketType} (h : matchedRules.find? (fun rule => rule.targetTicketType = own) = some other) :
    choose (some own) matchedRules = some other := by
  unfold choose
  dsimp only
  rw [Option.bind_some, h]
  rfl

theorem directMatch_none (h : ∀ other ∈ matchedRules, type ≠ some other.targetTicketType) :
    (type.bind fun own => matchedRules.find? fun rule => rule.targetTicketType = own) = none := by
  cases type with
  | none => rfl
  | some own =>
    rw [Option.bind_some, List.find?_eq_none]
    intro other hother hsame
    exact h other hother (congrArg some (of_decide_eq_true hsame).symm)

theorem choose_only (h : ∀ other ∈ matchedRules, type ≠ some other.targetTicketType)
    (hall : ∀ other ∈ matchedRules, other.targetTicketType = rule.targetTicketType)
    (hfirst : matchedRules.head? = some rule) : choose type matchedRules = some rule := by
  have hmem : rule.targetTicketType ∈ (matchedRules.map TicketKeywordRule.targetTicketType).dedup :=
    List.mem_dedup.mpr (List.mem_map_of_mem (List.mem_of_head? hfirst))
  have hsub : (matchedRules.map TicketKeywordRule.targetTicketType).dedup ⊆ [rule.targetTicketType] := by
    intro own hown
    obtain ⟨other, hother, rfl⟩ := List.mem_map.mp (List.mem_dedup.mp hown)
    exact List.mem_singleton.mpr (hall other hother)
  have hle := (List.subperm_of_subset (List.nodup_dedup _) hsub).length_le
  have hpos := List.length_pos_of_mem hmem
  unfold choose
  dsimp only
  rw [directMatch_none h, if_pos, hfirst]
  · rfl
  · rw [List.length_singleton] at hle
    omega

theorem choose_ambiguous (h : ∀ other ∈ matchedRules, type ≠ some other.targetTicketType) (hrule : rule ∈ matchedRules)
    (hother : other ∈ matchedRules) (hne : other.targetTicketType ≠ rule.targetTicketType) :
    choose type matchedRules = none := by
  have hsub : [other.targetTicketType, rule.targetTicketType] ⊆
      (matchedRules.map TicketKeywordRule.targetTicketType).dedup := by
    intro own hown
    rw [List.mem_dedup]
    rcases List.mem_pair.mp hown with rfl | rfl
    · exact List.mem_map_of_mem hother
    · exact List.mem_map_of_mem hrule
  have hle := (List.subperm_of_subset (by simpa using hne) hsub).length_le
  unfold choose
  dsimp only
  rw [directMatch_none h, if_neg]
  · rfl
  · rw [List.length_cons, List.length_singleton] at hle
    omega

/-! ## The rules that hold a keyword -/

theorem mem_holders : rule ∈ holders rules kw ↔ Holds rules kw rule := by
  unfold holders
  simp only [List.mem_flatMap, List.mem_map, List.mem_filter, decide_eq_true_eq]
  constructor
  · rintro ⟨rule, hrule, _, ⟨hkw, rfl⟩, rfl⟩
    exact ⟨hrule, hkw⟩
  · rintro ⟨hrule, hkw⟩
    exact ⟨rule, hrule, kw, ⟨hkw, rfl⟩, rfl⟩

theorem find?_holders (p : TicketKeywordRule → Bool) (rules : List TicketKeywordRule) (kw : Units) :
    (holders rules kw).find? p = rules.find? fun rule => decide (kw ∈ rule.keywordList) && p rule := by
  unfold holders
  induction rules with
  | nil => rfl
  | cons rule rest ih =>
    rw [List.flatMap_cons, List.find?_append, ih, List.map_const', List.find?_replicate]
    by_cases hkw : kw ∈ rule.keywordList
    · have hpos : (rule.keywordList.filter fun own => own = kw).length ≠ 0 := by
        have hmem : kw ∈ rule.keywordList.filter fun own => own = kw := List.mem_filter.mpr ⟨hkw, decide_eq_true rfl⟩
        have hlt := List.length_pos_of_mem hmem
        omega
      rw [if_neg hpos]
      cases hp : p rule <;> simp [hkw, hp]
    · have hzero : (rule.keywordList.filter fun own => own = kw).length = 0 := by
        rw [List.length_eq_zero_iff, List.filter_eq_nil_iff]
        intro own hown heq
        rw [of_decide_eq_true heq] at hown
        exact hkw hown
      rw [if_pos hzero]
      simp [hkw]

theorem holds_of_lead (h : leadingKeyword lower rules rule = some kw) : kw ∈ rule.keywordList := List.mem_of_find?_eq_some h

/-- No rule that leads nothing holds a longest keyword. -/
theorem not_holds_of_none (h : leadingKeyword lower rules rule = some kw) (hnone : leadingKeyword lower rules other = none) :
    kw ∉ other.keywordList := by
  intro hkw
  exact List.find?_eq_none.mp hnone kw hkw (List.find?_some h)

/-! ## What an order settles -/

theorem lead_or_none (lower : Units) (rules : List TicketKeywordRule) :
    (∀ rule ∈ rules, leadingKeyword lower rules rule = none) ∨ ∃ before rule after kw, rules = before ++ rule :: after ∧
      (∀ other ∈ before, leadingKeyword lower rules other = none) ∧ leadingKeyword lower rules rule = some kw := by
  cases hfirst : rules.find? fun rule => (leadingKeyword lower rules rule).isSome with
  | none =>
    refine .inl fun rule hrule => ?_
    have hnot := List.find?_eq_none.mp hfirst rule hrule
    simpa using hnot
  | some rule =>
    obtain ⟨hlead, before, after, hrules, hbefore⟩ := List.find?_eq_some_iff_append.mp hfirst
    obtain ⟨kw, hkw⟩ := Option.isSome_iff_exists.mp hlead
    refine .inr ⟨before, rule, after, kw, hrules, fun other hother => ?_, hkw⟩
    have hnot := hbefore other hother
    simpa using hnot

/-- The leading rule is the first that holds its keyword. -/
theorem find?_holders_lead {before after : List TicketKeywordRule} (hrules : rules = before ++ rule :: after)
    (hbefore : ∀ other ∈ before, leadingKeyword lower rules other = none)
    (hlead : leadingKeyword lower rules rule = some kw) {p : TicketKeywordRule → Bool} (hp : p rule = true) :
    (holders rules kw).find? p = some rule := by
  rw [find?_holders]
  refine List.find?_eq_some_iff_append.mpr ⟨?_, before, after, hrules, fun other hother => ?_⟩
  · rw [hp, decide_eq_true (holds_of_lead hlead)]
    rfl
  · rw [decide_eq_false (not_holds_of_none hlead (hbefore other hother))]
    rfl

theorem head?_holders_lead {before after : List TicketKeywordRule} (hrules : rules = before ++ rule :: after)
    (hbefore : ∀ other ∈ before, leadingKeyword lower rules other = none)
    (hlead : leadingKeyword lower rules rule = some kw) : (holders rules kw).head? = some rule := by
  rw [← find?_holders_lead hrules hbefore hlead (p := fun _ => true) rfl]
  cases holders rules kw <;> rfl

theorem settles_route (h : ∃ rule ∈ rules, leadingKeyword lower rules rule ≠ none) :
    Settles lower type rules (route lower type rules) := by
  rcases lead_or_none lower rules with hnone | ⟨before, rule, after, kw, hrules, hbefore, hlead⟩
  · obtain ⟨rule, hrule, hsome⟩ := h
    exact absurd (hnone rule hrule) hsome
  · have hmem : rule ∈ rules := hrules ▸ List.mem_append_right before List.mem_cons_self
    have hleads : Leads lower rules rule kw := ⟨hmem, hlead⟩
    have hfirst := head?_holders_lead hrules hbefore hlead
    rw [route_of_lead hrules hbefore hlead]
    by_cases hown : type = some rule.targetTicketType
    · have hfound : (holders rules kw).find? (fun other => other.targetTicketType = rule.targetTicketType) = some rule :=
        find?_holders_lead hrules hbefore hlead (decide_eq_true rfl)
      rw [hown, choose_direct hfound]
      exact .own hleads rfl
    · by_cases hdirect : ∀ other, Holds rules kw other → type ≠ some other.targetTicketType
      · have hdirect' : ∀ other ∈ holders rules kw, type ≠ some other.targetTicketType := fun other hother =>
          hdirect other (mem_holders.mp hother)
        by_cases hall : ∀ other, Holds rules kw other → other.targetTicketType = rule.targetTicketType
        · rw [choose_only hdirect' (fun other hother => hall other (mem_holders.mp hother)) hfirst]
          exact .only hleads hdirect hall
        · push Not at hall
          obtain ⟨other, hother, hne⟩ := hall
          rw [choose_ambiguous hdirect' (List.mem_of_head? hfirst) (mem_holders.mpr hother) hne]
          exact .ambiguous hleads hdirect hother hne
      · push Not at hdirect
        obtain ⟨other, hother, htype⟩ := hdirect
        have hsome : ((holders rules kw).find? fun rule => rule.targetTicketType = other.targetTicketType).isSome = true := by
          rw [List.find?_isSome]
          exact ⟨other, mem_holders.mpr hother, decide_eq_true rfl⟩
        obtain ⟨found, hfound⟩ := Option.isSome_iff_exists.mp hsome
        have hsame := List.find?_some hfound
        rw [decide_eq_true_eq] at hsame
        rw [htype, choose_direct hfound]
        rw [htype] at hown
        exact .direct hleads hown (mem_holders.mp (List.mem_of_find?_eq_some hfound)) (congrArg some hsame.symm)

/-! ## What is settled, an order routes to -/

theorem leadingKeyword_perm (h : order.Perm rules) (rule : TicketKeywordRule) :
    leadingKeyword lower order rule = leadingKeyword lower rules rule := by
  have hpairs : (keywordPairs order).Perm (keywordPairs rules) := h.flatMap_right _
  have hlongest : isLongest lower order = isLongest lower rules := by
    funext kw
    unfold isLongest
    rw [hpairs.all_eq]
  unfold leadingKeyword
  rw [hlongest]

theorem Leads.perm (h : order.Perm rules) (hleads : Leads lower rules rule kw) : Leads lower order rule kw :=
  ⟨h.mem_iff.mpr hleads.mem, (leadingKeyword_perm h rule).trans hleads.keyword⟩

theorem Holds.perm (h : order.Perm rules) (hholds : Holds rules kw rule) : Holds order kw rule :=
  ⟨h.mem_iff.mpr hholds.mem, hholds.keyword⟩

theorem Settles.perm (h : order.Perm rules) {a : Option TicketKeywordRule} (hsettles : Settles lower type rules a) :
    Settles lower type order a := by
  cases hsettles with
  | own hleads htype => exact .own (hleads.perm h) htype
  | direct hleads hown hother htype => exact .direct (hleads.perm h) hown (hother.perm h) htype
  | only hleads hdirect hall =>
    exact .only (hleads.perm h) (fun other hother => hdirect other (hother.perm h.symm))
      fun other hother => hall other (hother.perm h.symm)
  | ambiguous hleads hdirect hother hne =>
    exact .ambiguous (hleads.perm h) (fun other hother => hdirect other (hother.perm h.symm)) (hother.perm h) hne

/-- An order in which a rule comes first. -/
theorem route_of_first (type : Option TicketType) (h : (rule :: order).Perm rules) (hleads : Leads lower rules rule kw) :
    route lower type (rule :: order) = choose type (holders (rule :: order) kw) ∧
      (holders (rule :: order) kw).head? = some rule := by
  have hlead := (hleads.perm h).keyword
  have hnothing : ∀ other ∈ ([] : List TicketKeywordRule), leadingKeyword lower (rule :: order) other = none :=
    fun other hother => absurd hother List.not_mem_nil
  have hrules : rule :: order = [] ++ rule :: order := rfl
  exact ⟨route_of_lead hrules hnothing hlead, head?_holders_lead hrules hnothing hlead⟩

theorem route_of_settles {a : Option TicketKeywordRule} (h : Settles lower type rules a) :
    ∃ order, order.Perm rules ∧ route lower type order = a := by
  have hfirst {rule : TicketKeywordRule} (hrule : rule ∈ rules) : (rule :: rules.erase rule).Perm rules :=
    (List.perm_cons_erase hrule).symm
  cases h with
  | @own rule kw hleads htype =>
    have hperm := hfirst hleads.mem
    obtain ⟨hroute, -⟩ := route_of_first type hperm hleads
    have hfound : (holders (rule :: rules.erase rule) kw).find? (fun other => other.targetTicketType = rule.targetTicketType) =
        some rule := by
      rw [find?_holders]
      refine List.find?_cons_of_pos ?_
      rw [decide_eq_true (holds_of_lead hleads.keyword), decide_eq_true rfl]
      rfl
    refine ⟨_, hperm, ?_⟩
    rw [hroute, htype, choose_direct hfound]
  | @direct rule other kw hleads hown hother htype =>
    have hne : other ≠ rule := by
      rintro rfl
      exact hown htype
    have hmem : other ∈ rules.erase rule := (List.mem_erase_of_ne hne).mpr hother.mem
    have hperm : (rule :: other :: (rules.erase rule).erase other).Perm rules :=
      ((List.perm_cons_erase hmem).symm.cons rule).trans (hfirst hleads.mem)
    obtain ⟨hroute, -⟩ := route_of_first type hperm hleads
    have hfound : (holders (rule :: other :: (rules.erase rule).erase other) kw).find?
        (fun found => found.targetTicketType = other.targetTicketType) = some other := by
      have hnot : rule.targetTicketType ≠ other.targetTicketType := fun hsame => hown (hsame ▸ htype)
      rw [find?_holders, List.find?_cons_of_neg (by simp [hnot])]
      refine List.find?_cons_of_pos ?_
      rw [decide_eq_true hother.keyword, decide_eq_true rfl]
      rfl
    refine ⟨_, hperm, ?_⟩
    rw [hroute, htype, choose_direct hfound]
  | @only rule kw hleads hdirect hall =>
    have hperm := hfirst hleads.mem
    obtain ⟨hroute, hhead⟩ := route_of_first type hperm hleads
    refine ⟨_, hperm, ?_⟩
    rw [hroute]
    refine choose_only (fun other hother => ?_) (fun other hother => ?_) hhead
    · exact hdirect other ((mem_holders.mp hother).perm hperm.symm)
    · exact hall other ((mem_holders.mp hother).perm hperm.symm)
  | @ambiguous rule other kw hleads hdirect hother hne =>
    have hperm := hfirst hleads.mem
    obtain ⟨hroute, hhead⟩ := route_of_first type hperm hleads
    refine ⟨_, hperm, ?_⟩
    rw [hroute]
    refine choose_ambiguous (fun other hother => ?_) (List.mem_of_head? hhead) (mem_holders.mpr (hother.perm hperm)) hne
    exact hdirect other ((mem_holders.mp hother).perm hperm.symm)

/-! ## All the configured rules -/

section
variable {s : Services} {keywordRules : List TicketKeywordRule}

/-- Every order of the rules with valid targets is that of an order of all the rules. -/
theorem routableRules_order (h : order.Perm (routableRules s keywordRules)) :
    ∃ all, all.Perm keywordRules ∧ routableRules s all = order := by
  have hroutable (rules : List TicketKeywordRule) : routableRules s rules =
      rules.filter fun rule => rule.isRoutable s && rule.isActive := List.filter_filter
  refine ⟨order ++ keywordRules.filter fun rule => !(rule.isRoutable s && rule.isActive), ?_, ?_⟩
  · rw [hroutable] at h
    exact (h.append_right _).trans (List.filter_append_perm _ keywordRules)
  · rw [hroutable] at h ⊢
    have hall : order.filter (fun rule => rule.isRoutable s && rule.isActive) = order :=
      List.filter_eq_self.mpr fun rule hrule => (List.mem_filter.mp (h.mem_iff.mp hrule)).2
    have hnone : (keywordRules.filter fun rule => !(rule.isRoutable s && rule.isActive)).filter
        (fun rule => rule.isRoutable s && rule.isActive) = [] := by
      rw [List.filter_eq_nil_iff]
      intro rule hrule hroutes
      have hnot := (List.mem_filter.mp hrule).2
      rw [hroutes] at hnot
      cases hnot
    rw [List.filter_append, hall, hnone, List.append_nil]

end

/-- **Routing and the order of the rules.** A text is routed to the same target for every order in which the rules are read
where all that the rules with valid targets may settle has one target, and only there. -/
theorem routing_ignores_order (toLowerCase : Units → Units) (s : Services) (keywordRules : List TicketKeywordRule)
    (text : Units) (type : Option TicketType) :
    (∀ order, order.Perm keywordRules →
      (matchKeywordRules toLowerCase s order text type).map TicketKeywordRule.target =
        (matchKeywordRules toLowerCase s keywordRules text type).map TicketKeywordRule.target) ↔
      Agree (toLowerCase text) type (routableRules s keywordRules) := by
  have hroutable {order : List TicketKeywordRule} (h : order.Perm keywordRules) :
      (routableRules s order).Perm (routableRules s keywordRules) := (h.filter _).filter _
  constructor
  · intro hsame a b ha hb
    have hreach {c : Option TicketKeywordRule} (hc : Settles (toLowerCase text) type (routableRules s keywordRules) c) :
        c.map TicketKeywordRule.target =
          (matchKeywordRules toLowerCase s keywordRules text type).map TicketKeywordRule.target := by
      obtain ⟨order, hperm, hroute⟩ := route_of_settles hc
      obtain ⟨all, hall, horder⟩ := routableRules_order hperm
      rw [← hsame all hall, matchKeywordRules, horder, hroute]
    rw [hreach ha, hreach hb]
  · intro hagree order hperm
    by_cases hlead : ∃ rule ∈ routableRules s keywordRules,
        leadingKeyword (toLowerCase text) (routableRules s keywordRules) rule ≠ none
    · refine hagree _ _ ?_ (settles_route hlead)
      obtain ⟨rule, hrule, hsome⟩ := hlead
      refine (settles_route ⟨rule, (hroutable hperm).mem_iff.mpr hrule, ?_⟩).perm (hroutable hperm).symm
      rwa [leadingKeyword_perm (hroutable hperm)]
    · push Not at hlead
      have hnone : ∀ rule ∈ routableRules s order, leadingKeyword (toLowerCase text) (routableRules s order) rule = none := by
        intro rule hrule
        rw [leadingKeyword_perm (hroutable hperm)]
        exact hlead rule ((hroutable hperm).mem_iff.mp hrule)
      rw [matchKeywordRules, matchKeywordRules, route_of_none hnone, route_of_none hlead]

/-! ## Two keywords of one length -/

/-- The office, with categories 2 of desktop support and 3 of Pantawid. -/
def helpDesk : Services :=
  { office 0 with
    categories := fun id =>
      if id = 1 then some { id, isIt := true }
      else if id = 2 then some { id, isDesktop := true, isIt := true }
      else if id = 3 then some { id, isPantawid := true }
      else none }

def mouseRule : TicketKeywordRule where
  keyword := units "mouse"
  targetTicketType := .desktop_support
  targetCategoryId := some 2

def houseRule : TicketKeywordRule where
  keyword := units "house"
  targetTicketType := .pantawid_ict_support
  targetCategoryId := some 3

/-- The text without capitals stands for itself. -/
def brokenMouse : Units := units "the mouse is broken"

theorem route_brokenMouse : (route brokenMouse (some .it_support) [mouseRule, houseRule]).map TicketKeywordRule.targetTicketType =
      some .desktop_support ∧
    (route brokenMouse (some .it_support) [houseRule, mouseRule]).map TicketKeywordRule.targetTicketType =
      some .pantawid_ict_support := by
  have hnothing (rules : List TicketKeywordRule) :
      ∀ other ∈ ([] : List TicketKeywordRule), leadingKeyword brokenMouse rules other = none :=
    fun other hother => absurd hother List.not_mem_nil
  have hmouse : leadingKeyword brokenMouse [mouseRule, houseRule] mouseRule = some (units "mouse") := by decide +kernel
  have hhouse : leadingKeyword brokenMouse [houseRule, mouseRule] houseRule = some (units "house") := by decide +kernel
  rw [route_of_lead (List.nil_append _).symm (hnothing _) hmouse, route_of_lead (List.nil_append _).symm (hnothing _) hhouse]
  decide +kernel

/-- A house looks like a mouse, so the rule that is read first routes the text. -/
theorem routing_follows_order : ¬ ∀ (toLowerCase : Units → Units) (s : Services) (keywordRules order : List TicketKeywordRule)
    (text : Units) (type : Option TicketType), order.Perm keywordRules →
      (matchKeywordRules toLowerCase s order text type).map TicketKeywordRule.target =
        (matchKeywordRules toLowerCase s keywordRules text type).map TicketKeywordRule.target := by
  intro hall
  have hsame := hall id helpDesk [mouseRule, houseRule] [houseRule, mouseRule] brokenMouse (some .it_support)
    (.swap mouseRule houseRule [])
  have hrules : routableRules helpDesk [mouseRule, houseRule] = [mouseRule, houseRule] := by decide +kernel
  have hrules' : routableRules helpDesk [houseRule, mouseRule] = [houseRule, mouseRule] := by decide +kernel
  unfold matchKeywordRules at hsame
  rw [hrules, hrules', id] at hsame
  obtain ⟨hmouse, hhouse⟩ := route_brokenMouse
  have htypes := congrArg (Option.map KeywordTarget.targetTicketType) hsame
  rw [Option.map_map, Option.map_map] at htypes
  have hne := hhouse.symm.trans (htypes.trans hmouse)
  cases hne

end ComplianceHub.Tickets
