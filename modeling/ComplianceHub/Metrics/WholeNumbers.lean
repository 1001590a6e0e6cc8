import ComplianceHub.Metrics.PropertyCheck
import Mathlib.Data.List.TakeWhile

/-!
# Whole numbers in property checks

* `reads_numeralLength` : the expression of numerals takes the longest one from the front of a text;
* `ReadsWhole` : the number of a keyword is a whole one of the text, and the one that follows the keyword if one does;
* `Fits` : the window around a keyword cuts no number;
* `numbers_are_read_whole` : then each number is read whole;
* `the_window_cuts_a_number` : a text whose only number is read in part.
-/

namespace ComplianceHub.Metrics

open ComplianceHub.Lib
open ComplianceHub.Tickets (Units units)

/-! ## The longest numeral -/

theorem length_le_takeWhile {p : UInt16 → Bool} {word rest : Units} (hword : word <+: rest) (hall : ∀ c ∈ word, p c = true) :
    word.length ≤ (rest.takeWhile p).length := by
  obtain ⟨more, rfl⟩ := hword
  rw [List.takeWhile_append_of_pos hall, List.length_append]
  omega

theorem take_length_takeWhile (p : UInt16 → Bool) (rest : Units) :
    rest.take (rest.takeWhile p).length = rest.takeWhile p :=
  (List.prefix_iff_eq_take.mp (List.takeWhile_prefix p)).symm

theorem IsFraction.length_le {word rest : Units} (h : IsFraction word) (hword : word <+: rest) :
    word.length ≤ fractionLength rest := by
  rcases h with rfl | ⟨c, digits, rfl, hc, hne, hdigits⟩
  · exact Nat.zero_le _
  · obtain ⟨more, rfl⟩ := hword
    have hle := length_le_takeWhile (List.prefix_append digits more) hdigits
    have hpos := List.length_pos_iff.mpr hne
    rw [List.cons_append, fractionLength, hc, Bool.true_and, if_pos (decide_eq_true (by omega)), List.length_cons]
    omega

theorem isFraction_take (rest : Units) : fractionLength rest ≤ rest.length ∧ IsFraction (rest.take (fractionLength rest)) := by
  cases rest with
  | nil => exact ⟨Nat.le_refl _, .inl rfl⟩
  | cons c rest =>
    have hle := (List.takeWhile_prefix isDigit (l := rest)).length_le
    rw [fractionLength]
    split_ifs with h
    · obtain ⟨hc, hpos⟩ := Bool.and_eq_true_iff.mp h
      refine ⟨by rw [List.length_cons]; omega, .inr ⟨c, rest.takeWhile isDigit, ?_, hc, ?_, fun d => List.mem_takeWhile_imp⟩⟩
      · rw [List.take_succ_cons, take_length_takeWhile]
      · exact List.length_pos_iff.mp (of_decide_eq_true hpos)
    · exact ⟨Nat.zero_le _, .inl rfl⟩

theorem isFraction_head {word : Units} (h : IsFraction word) : word = [] ∨ ∃ c rest, word = c :: rest ∧ isPoint c = true := by
  rcases h with rfl | ⟨c, digits, rfl, hc, -⟩
  · exact .inl rfl
  · exact .inr ⟨c, digits, rfl, hc⟩

theorem not_whole_of_isPoint {c : UInt16} (h : isPoint c = true) : (isDigit c || isComma c) = false := by
  rw [isPoint, decide_eq_true_eq] at h
  rw [h]
  decide

theorem IsUnsigned.length_le {word rest : Units} (h : IsUnsigned word) (hword : word <+: rest) :
    ∃ n, unsignedLength rest = some n ∧ word.length ≤ n := by
  obtain ⟨c, whole, fraction, rfl, hc, hwhole, hfraction⟩ := h
  obtain ⟨more, rfl⟩ := hword
  rw [List.cons_append, unsignedLength, if_pos hc]
  refine ⟨_, rfl, ?_⟩
  have hprefix : whole <+: whole ++ fraction ++ more := ⟨fraction ++ more, by rw [List.append_assoc]⟩
  have hle := length_le_takeWhile hprefix hwhole
  rw [List.length_cons, List.length_append]
  rcases Nat.lt_or_ge whole.length ((whole ++ fraction ++ more).takeWhile fun c => isDigit c || isComma c).length with hlt | hge
  · -- what stands behind the shorter whole part is no point, so there is no fraction
    rcases isFraction_head hfraction with rfl | ⟨point, digits, rfl, hpoint⟩
    · rw [List.length_nil]
      omega
    · rw [List.append_assoc, List.takeWhile_append_of_pos hwhole, List.cons_append,
        List.takeWhile_cons_of_neg (by rw [not_whole_of_isPoint hpoint]; exact Bool.false_ne_true), List.append_nil] at hlt
      omega
  · have hdrop : (whole ++ fraction ++ more).drop
        ((whole ++ fraction ++ more).takeWhile fun c => isDigit c || isComma c).length = fraction ++ more := by
      rw [Nat.le_antisymm hge hle, List.append_assoc, List.drop_left]
    rw [hdrop]
    have hfractionLe := hfraction.length_le (List.prefix_append fraction more)
    omega

theorem isUnsigned_take {rest : Units} {n : Nat} (h : unsignedLength rest = some n) :
    0 < n ∧ n ≤ rest.length ∧ IsUnsigned (rest.take n) := by
  cases rest with
  | nil => cases h
  | cons c rest =>
    rw [unsignedLength] at h
    split_ifs at h with hc
    cases h
    have hwhole := (List.takeWhile_prefix (fun c => isDigit c || isComma c) (l := rest)).length_le
    obtain ⟨hle, hfraction⟩ := isFraction_take (rest.drop (rest.takeWhile fun c => isDigit c || isComma c).length)
    rw [List.length_drop] at hle
    refine ⟨by omega, by rw [List.length_cons]; omega, c, rest.takeWhile fun c => isDigit c || isComma c, _, ?_, hc,
      fun d => List.mem_takeWhile_imp, hfraction⟩
    rw [Nat.add_assoc, Nat.add_comm 1, List.take_succ_cons, List.take_add, take_length_takeWhile]

theorem reads_numeralLength : Reads IsNumeral numeralLength := by
  constructor
  · intro rest n h
    cases rest with
    | nil => cases h
    | cons c rest =>
      rw [numeralLength] at h
      split_ifs at h with hc
      · obtain ⟨m, hm, rfl⟩ := Option.map_eq_some_iff.mp h
        obtain ⟨hpos, hle, hword⟩ := isUnsigned_take hm
        refine ⟨by omega, by rw [List.length_cons]; omega, .inr ⟨c, rest.take m, ?_, hc, hword⟩⟩
        rw [List.take_succ_cons]
      · obtain ⟨hpos, hle, hword⟩ := isUnsigned_take h
        exact ⟨hpos, hle, .inl hword⟩
  · intro rest m hm hword
    have hprefix := List.take_prefix m rest
    have hlength : (rest.take m).length = m := by rw [List.length_take, Nat.min_eq_left hm]
    rw [← hlength]
    generalize rest.take m = word at hword hprefix
    rcases hword with hword | ⟨c, unsigned, rfl, hc, hword⟩
    · obtain ⟨n, hn, hle⟩ := hword.length_le hprefix
      refine ⟨n, ?_, hle⟩
      obtain ⟨c, whole, fraction, rfl, hc, -⟩ := hword
      obtain ⟨more, rfl⟩ := hprefix
      rw [List.cons_append, numeralLength, if_neg]
      · exact hn
      · intro hminus
        rw [isMinus, decide_eq_true_eq] at hminus
        rw [hminus] at hc
        exact absurd hc (by decide)
    · obtain ⟨more, rfl⟩ := hprefix
      obtain ⟨n, hn, hle⟩ := hword.length_le (List.prefix_append unsigned more)
      refine ⟨n + 1, ?_, by rw [List.length_cons]; omega⟩
      rw [List.cons_append, numeralLength, if_pos hc, hn]
      rfl

theorem IsNumeral.head {c : UInt16} {rest : Units} (h : IsNumeral (c :: rest)) : isGap c = false := by
  rcases h with ⟨d, whole, fraction, hword, hd, -⟩ | ⟨d, unsigned, hword, hd, -⟩
  · cases hword
    rw [isGap, hd]
    rfl
  · cases hword
    rw [isGap, hd, Bool.not_true, Bool.and_false]

theorem IsNumeral.ne_nil {word : Units} (h : IsNumeral word) : word ≠ [] := by
  rintro rfl
  rcases h with ⟨_, _, _, hword, -⟩ | ⟨_, _, hword, -⟩
  · cases hword
  · cases hword

/-- The character at which a numeral starts. -/
theorem occurs_head {text : Units} {a b : Nat} (h : Occurs IsNumeral text a b) :
    a < b ∧ ∃ c, text[a]? = some c ∧ isGap c = false := by
  have hword := h.word
  rw [part_eq_take_drop] at hword
  have hlt : a < b := by
    by_contra hle
    rw [show b - a = 0 by omega, List.take_zero] at hword
    exact hword.ne_nil rfl
  have hbound := h.bound
  refine ⟨hlt, text[a], List.getElem?_eq_getElem (by omega), ?_⟩
  rw [List.drop_eq_getElem_cons (by omega), show b - a = b - a - 1 + 1 by omega, List.take_succ_cons] at hword
  exact hword.head

/-! ## Whole numbers -/

/-- A number stands behind a place, with at most 24 characters other than digits and minus signs in between. -/
structure NumberFollows (text : Units) (place a b : Nat) : Prop where
  number : MaximalAt IsNumeral text a b
  le : place ≤ a
  near : a ≤ place + 24
  gap : ∀ c ∈ part text place a, isGap c = true

theorem NumberFollows.start_le {text : Units} {place a b a' b' : Nat} (h : NumberFollows text place a b)
    (h' : NumberFollows text place a' b') : a' ≤ a := by
  by_contra hlt
  obtain ⟨-, c, hc, hhead⟩ := occurs_head h.number.toOccurs
  have hle := h.le
  have hget : (part text place a')[a - place]? = some c := by
    rw [getElem?_part (by omega), show place + (a - place) = a by omega]
    exact hc
  rw [h'.gap c (List.mem_of_getElem? hget)] at hhead
  cases hhead

theorem NumberFollows.unique {text : Units} {place a b a' b' : Nat} (h : NumberFollows text place a b)
    (h' : NumberFollows text place a' b') : a = a' ∧ b = b' := by
  obtain rfl : a = a' := Nat.le_antisymm (h'.start_le h) (h.start_le h')
  exact ⟨rfl, h.number.end_unique h'.number⟩

section
variable {Number : Type} (language : Language Number) (text : Units)

/-- The first place of a keyword in a text, ignoring case. -/
def firstPlace (keyword : Units) : Option Nat :=
  (List.range (text.length + 1)).find? fun place => startsWithKeyword language keyword (text.drop place)

/-- The number of a keyword is a whole one of the text, and the one that follows the keyword if one does. -/
structure ReadsWhole (item : KeywordExtraction Number) : Prop where
  whole : ∀ value, item.extracted = some value →
    ∃ a b, MaximalAt IsNumeral text a b ∧ value = language.number (withoutCommas (part text a b))
  following : ∀ place, firstPlace language text item.keyword = some place →
    ∀ a b, NumberFollows text (place + item.keyword.length) a b →
      item.extracted = some (language.number (withoutCommas (part text a b)))

/-- The part of a text from `s` to `e` cuts no numeral, no numeral runs out of the keyword, and numerals do not overlap. -/
structure CutsNone (keyword : Units) (s e : Nat) : Prop where
  start : Uncut IsNumeral text s
  stop : Uncut IsNumeral text e
  keyword : ∀ place, s ≤ place → place + keyword.length ≤ e → startsWithKeyword language keyword (text.drop place) = true →
    Uncut IsNumeral text (place + keyword.length)
  nested : Nested IsNumeral (part text s e)

/-- The keyword is found at its first place. The window reaches over the number that follows it, or where none does, it cuts
no number. -/
def Fits (window_chars : Option Rat) (keyword : Units) : Prop :=
  firstPlace language text keyword = keywordIndex language text keyword ∧
    ∀ place, keywordIndex language text keyword = some place → ∀ s e, contextBounds text keyword window_chars place = (s, e) →
      (∃ a b, NumberFollows text (place + keyword.length) a b ∧ s ≤ place ∧ b ≤ e) ∨
        (∀ a b, ¬ NumberFollows text (place + keyword.length) a b) ∧ CutsNone language text keyword s e

end

section
variable {Number : Type} {language : Language Number} {text keyword : Units} {window_chars : Option Rat} {place s e a b : Nat}

theorem firstPlace_eq_some (h : firstPlace language text keyword = some place) :
    startsWithKeyword language keyword (text.drop place) = true ∧
      ∀ earlier < place, startsWithKeyword language keyword (text.drop earlier) = false := by
  obtain ⟨hplace, -, hearlier⟩ := List.find?_range_eq_some.mp h
  exact ⟨hplace, fun earlier hlt => by simpa using hearlier earlier hlt⟩

theorem contextBounds_le (h : contextBounds text keyword window_chars place = (s, e)) : e ≤ text.length := by
  cases h
  unfold sliceIndex
  split_ifs
  · omega
  · exact Nat.min_le_left _ _

/-- What stands in front of an end is read the same way if the end is cut off behind it. -/
theorem startsWithKeyword_take {rest : Units} {n : Nat} (h : keyword.length ≤ n) :
    startsWithKeyword language keyword (rest.take n) = startsWithKeyword language keyword rest := by
  unfold startsWithKeyword
  rw [List.length_take, List.take_take, Nat.min_eq_left h]
  congr 1
  rw [decide_eq_decide]
  omega

theorem startsWithKeyword_of_take {rest : Units} {n : Nat}
    (h : startsWithKeyword language keyword (rest.take n) = true) : startsWithKeyword language keyword rest = true := by
  rw [← h]
  refine (startsWithKeyword_take ?_).symm
  have hle := of_decide_eq_true (Bool.and_eq_true_iff.mp h).1
  rw [List.length_take] at hle
  omega

/-- What the expression finds at one place. -/
theorem keywordValueAt_eq_some {rest : Units} {start n : Nat} (h : keywordValueAt language keyword rest = some (start, n)) :
    startsWithKeyword language keyword rest = true ∧ ∃ taken, start = keyword.length + taken ∧
      taken ≤ ((rest.drop keyword.length).takeWhile isGap).length ∧ numeralLength (rest.drop start) = some n := by
  unfold keywordValueAt at h
  split_ifs at h with hstarts
  obtain ⟨taken, htaken, hfound⟩ := List.exists_of_findSome?_eq_some h
  obtain ⟨m, hm, hfound⟩ := Option.map_eq_some_iff.mp hfound
  cases hfound
  rw [List.mem_reverse, List.mem_range] at htaken
  refine ⟨hstarts, taken, rfl, by omega, ?_⟩
  rw [← List.drop_drop]
  exact hm

/-- The number that follows the first place of the keyword is the one that the expression finds. -/
theorem keywordValueMatch_of_follows (hplace : firstPlace language text keyword = some place)
    (hnumber : NumberFollows text (place + keyword.length) a b) (hs : s ≤ place) (hb : b ≤ e) (he : e ≤ text.length) :
    keywordValueMatch language keyword (part text s e) = some (a - s, b - a) := by
  obtain ⟨hstarts, hearlier⟩ := firstPlace_eq_some hplace
  have hword := hnumber.number.toOccurs
  obtain ⟨hab, c, hc, hhead⟩ := occurs_head hword
  have hle := hnumber.le
  have hnear := hnumber.near
  have hdrop : ∀ j, (part text s e).drop j = (text.drop (s + j)).take (e - (s + j)) := by
    intro j
    rw [drop_part, part_eq_take_drop]
  -- the characters up to the numeral are those that the expression passes over
  have hgap : ((((part text s e).drop (place - s)).drop keyword.length).takeWhile isGap).length =
      a - (place + keyword.length) := by
    have hsplit : ((part text s e).drop (place - s)).drop keyword.length =
        part text (place + keyword.length) a ++ part text a e := by
      rw [List.drop_drop, drop_part, show s + (place - s + keyword.length) = place + keyword.length by omega]
      exact part_append text hle (by omega)
    have hnext : (part text a e).takeWhile isGap = [] := by
      have hbound : a < text.length := by omega
      have hget : text[a] = c := by
        rw [List.getElem?_eq_getElem hbound] at hc
        exact Option.some.inj hc
      rw [part_eq_take_drop, List.drop_eq_getElem_cons (by omega), show e - a = e - a - 1 + 1 by omega, List.take_succ_cons,
        List.takeWhile_cons_of_neg]
      rw [hget, hhead]
      exact Bool.false_ne_true
    rw [hsplit, List.takeWhile_append_of_pos hnumber.gap, hnext, List.append_nil, length_part (by omega)]
  have hread : numeralLength ((part text s e).drop (a - s)) = some (b - a) := by
    have hinside : Occurs IsNumeral (part text s e) (a - s) (b - s) := by
      refine (occurs_part he (by omega)).mpr ⟨?_, by omega⟩
      rw [show s + (a - s) = a by omega, show s + (b - s) = b by omega]
      exact hword
    obtain ⟨n, hn, hreach⟩ := reads_numeralLength.reaches hinside
    obtain ⟨hlonger, -⟩ := (occurs_part he (by omega)).mp (reads_numeralLength.occurs hn)
    rw [show s + (a - s) = a by omega, show s + (a - s + n) = a + n by omega] at hlonger
    obtain ⟨-, hend⟩ := hnumber.number.longest _ _ hlonger (Nat.le_refl _) (by omega)
    rw [hn]
    congr 1
    omega
  have hfound : keywordValueAt language keyword ((part text s e).drop (place - s)) =
      some (keyword.length + (a - (place + keyword.length)), b - a) := by
    have hhere : startsWithKeyword language keyword ((part text s e).drop (place - s)) = true := by
      rw [hdrop, show s + (place - s) = place by omega, startsWithKeyword_take (by omega)]
      exact hstarts
    rw [keywordValueAt, if_pos hhere]
    dsimp only
    rw [hgap, Nat.min_eq_right (by omega), List.range_succ, List.reverse_append, List.reverse_singleton,
      List.singleton_append, List.findSome?_cons, List.drop_drop, List.drop_drop,
      show place - s + (keyword.length + (a - (place + keyword.length))) = a - s by omega, hread]
    rfl
  have hnone : ∀ j < place - s, keywordValueAt language keyword ((part text s e).drop j) = none := by
    intro j hj
    rw [keywordValueAt, if_neg]
    rw [hdrop]
    intro hstarts'
    have hearlier := hearlier (s + j) (by omega)
    rw [startsWithKeyword_of_take hstarts'] at hearlier
    cases hearlier
  rw [keywordValueMatch, firstMatch_of_first (by rw [length_part he]; omega) hfound hnone 0]
  show some (0 + (place - s) + (keyword.length + (a - (place + keyword.length))), b - a) = _
  rw [show 0 + (place - s) + (keyword.length + (a - (place + keyword.length))) = a - s by omega]

/-- Where nothing is cut, the expression finds a whole number. -/
theorem keywordValueMatch_maximal (hcuts : CutsNone language text keyword s e) (he : e ≤ text.length) {start n : Nat}
    (h : keywordValueMatch language keyword (part text s e) = some (start, n)) :
    MaximalAt IsNumeral text (s + start) (s + (start + n)) ∧ s + (start + n) ≤ e := by
  obtain ⟨⟨i, start', n'⟩, hfirst, hspan⟩ := Option.map_eq_some_iff.mp h
  cases hspan
  obtain ⟨k, hi, hk, hfound⟩ := firstMatch_eq_some hfirst
  obtain rfl : i = k := by omega
  obtain ⟨hstarts, taken, rfl, htaken, hread⟩ := keywordValueAt_eq_some hfound
  rw [List.drop_drop] at hread
  obtain ⟨hpos, hlength, -⟩ := reads_numeralLength.word _ _ hread
  have hse : s < e := by
    rw [List.length_drop, length_part he] at hlength
    omega
  have hword := reads_numeralLength.occurs hread
  obtain ⟨hin, hle⟩ := (occurs_part he (by omega)).mp hword
  refine ⟨⟨hin, fun c d hcd hc hd => ?_⟩, hle⟩
  have hde : d ≤ e := by
    by_contra hlt
    exact hcuts.stop c d hcd ⟨by omega, by omega⟩
  have hkeyword : Uncut IsNumeral text (s + i + keyword.length) := by
    refine hcuts.keyword (s + i) (by omega) (by omega) ?_
    rw [drop_part, part_eq_take_drop] at hstarts
    exact startsWithKeyword_of_take hstarts
  rcases Nat.lt_or_ge c (s + (i + (keyword.length + taken))) with hlt | hge
  · rcases Nat.lt_or_ge c (s + i + keyword.length) with hbefore | hbehind
    · exact absurd ⟨hbefore, by omega⟩ (hkeyword c d hcd)
    · -- a numeral does not start with a character that the expression passes over
      obtain ⟨-, x, hx, hhead⟩ := occurs_head hcd
      obtain ⟨more, hmore⟩ : (((part text s e).drop i).drop keyword.length).takeWhile isGap <+:
          part text (s + i + keyword.length) e := by
        rw [List.drop_drop, drop_part, ← Nat.add_assoc]
        exact List.takeWhile_prefix _
      have hget : (part text (s + i + keyword.length) e)[c - (s + i + keyword.length)]? = some x := by
        rw [getElem?_part (by omega), show s + i + keyword.length + (c - (s + i + keyword.length)) = c by omega]
        exact hx
      rw [← hmore, List.getElem?_append_left (by omega)] at hget
      have hgap : isGap x = true := List.mem_takeWhile_imp (List.mem_of_getElem? hget)
      rw [hgap] at hhead
      cases hhead
  · obtain rfl : c = s + (i + (keyword.length + taken)) := by omega
    have hinside : Occurs IsNumeral (part text s e) (i + (keyword.length + taken)) (d - s) := by
      refine (occurs_part he (by omega)).mpr ⟨?_, by omega⟩
      rw [show s + (d - s) = d by omega]
      exact hcd
    obtain ⟨m, hm, hreach⟩ := reads_numeralLength.reaches hinside
    rw [hread] at hm
    cases hm
    exact ⟨rfl, by omega⟩

theorem foldl_nearer {context : Units} {position : Int} (numerals : List (Nat × Nat)) {best : Option (Nat × Number)}
    {distance : Nat} {value : Number} (h : numerals.foldl (nearer language context position) best = some (distance, value)) :
    best = some (distance, value) ∨ ∃ numeral ∈ numerals,
      value = language.number (withoutCommas (part context numeral.1 (numeral.1 + numeral.2))) := by
  induction numerals generalizing best with
  | nil => exact .inl h
  | cons numeral rest ih =>
    rcases ih h with hbest | ⟨other, hother, hvalue⟩
    · unfold nearer at hbest
      dsimp only at hbest
      split_ifs at hbest
      · cases hbest
        exact .inr ⟨numeral, List.mem_cons_self, rfl⟩
      · exact .inl hbest
    · exact .inr ⟨other, List.mem_cons_of_mem _ hother, hvalue⟩

/-- Where the window fits, the number of a keyword is a whole one. -/
theorem extract_of_fits (hfits : Fits language text window_chars keyword) :
    (∀ value, extract language text window_chars keyword = some value →
        ∃ a b, MaximalAt IsNumeral text a b ∧ value = language.number (withoutCommas (part text a b))) ∧
      ∀ place, firstPlace language text keyword = some place → ∀ a b, NumberFollows text (place + keyword.length) a b →
        extract language text window_chars keyword = some (language.number (withoutCommas (part text a b))) := by
  obtain ⟨hsame, hfits⟩ := hfits
  rw [hsame]
  cases hindex : keywordIndex language text keyword with
  | none =>
    unfold extract
    rw [hindex]
    constructor
    · intro value h
      cases h
    · intro place h
      cases h
  | some place =>
    rw [hindex] at hsame
    have hcontext : contextOf text keyword window_chars place = part text _ _ := rfl
    generalize hbounds : contextBounds text keyword window_chars place = bounds at hcontext
    obtain ⟨s, e⟩ := bounds
    have he := contextBounds_le hbounds
    unfold extract
    rw [hindex]
    dsimp only at hcontext ⊢
    rw [hcontext]
    rcases hfits place hindex s e hbounds with ⟨a, b, hnumber, hs, hb⟩ | ⟨hnone, hcuts⟩
    · have hle := hnumber.le
      have hab := hnumber.number.le
      rw [keywordValueMatch_of_follows hsame hnumber hs hb he]
      dsimp only
      rw [part_part text (by omega), show s + (a - s) = a by omega, show s + (a - s + (b - a)) = b by omega]
      refine ⟨fun value h => ⟨a, b, hnumber.number, (Option.some.inj h).symm⟩, fun place' hplace' a' b' hnumber' => ?_⟩
      cases hplace'
      obtain ⟨rfl, rfl⟩ := hnumber.unique hnumber'
      rfl
    · constructor
      · intro value h
        cases hmatch : keywordValueMatch language keyword (part text s e) with
        | some found =>
          obtain ⟨start, n⟩ := found
          rw [hmatch] at h
          cases h
          obtain ⟨hmaximal, hle⟩ := keywordValueMatch_maximal hcuts he hmatch
          exact ⟨_, _, hmaximal, by rw [part_part text hle]⟩
        | none =>
          rw [hmatch] at h
          obtain ⟨⟨distance, _⟩, hnearest, rfl⟩ := Option.map_eq_some_iff.mp h
          rcases foldl_nearer _ hnearest with hbest | ⟨⟨p, n⟩, hmem, hvalue⟩
          · cases hbest
          · have hmaximal := scan_maximal reads_numeralLength hcuts.nested hmem
            have hpos := (occurs_head hmaximal.toOccurs).1
            have hse : s ≤ e := by
              have hbound := hmaximal.bound
              rw [length_part he] at hbound
              omega
            have hle := ((occurs_part he hse).mp hmaximal.toOccurs).2
            refine ⟨_, _, hmaximal.of_part hpos he hse hcuts.start hcuts.stop, ?_⟩
            rw [hvalue, part_part text hle]
      · intro place' hplace' a b hnumber
        cases hplace'
        exact absurd hnumber (hnone a b)

/-- The numbers of a check are those of its keywords. -/
theorem checks_of_execute {documentMetadata : Units → Option Units} {ruleConfig : PropertyCheckConfig Number}
    {matches_pattern : Bool} {result : PropertyCheckResult Number} {items : List (KeywordExtraction Number)}
    (h : execute language documentMetadata text ruleConfig matches_pattern = .ok result)
    (hchecks : result.evidence.checks = some items) {item : KeywordExtraction Number} (hitem : item ∈ items) :
    item.keyword ∈ configuredKeywords ruleConfig ∧
      item.extracted = extract language text ruleConfig.window_chars item.keyword := by
  unfold execute at h
  cases hmode : ruleConfig.mode.getD .property_match with
  | number_extraction =>
    rw [hmode] at h
    dsimp only at h
    by_cases hnone : configuredKeywords ruleConfig = []
    · rw [if_pos hnone] at h
      cases h
      cases hchecks
    · rw [if_neg hnone] at h
      cases h
      cases hchecks
      obtain ⟨index, hindex, rfl⟩ := List.mem_mapIdx.mp hitem
      exact ⟨List.getElem_mem hindex, rfl⟩
  | property_match =>
    rw [hmode] at h
    dsimp only at h
    split at h
    · obtain ⟨isMatch, -, h⟩ := bind_eq_ok.mp h
      cases h
      cases hchecks
    · cases h
      cases hchecks

/-- **Numbers are read whole**: where the window around each keyword fits, each number that a check extracts is a whole one
of the text, and the one that follows its keyword if one does. -/
theorem numbers_are_read_whole {documentMetadata : Units → Option Units} {ruleConfig : PropertyCheckConfig Number}
    {matches_pattern : Bool} {result : PropertyCheckResult Number}
    (hfits : ∀ keyword ∈ configuredKeywords ruleConfig, Fits language text ruleConfig.window_chars keyword)
    (h : execute language documentMetadata text ruleConfig matches_pattern = .ok result) :
    ∀ items, result.evidence.checks = some items → ∀ item ∈ items, ReadsWhole language text item := by
  intro items hchecks item hitem
  obtain ⟨hkeyword, hextracted⟩ := checks_of_execute h hchecks hitem
  obtain ⟨hwhole, hfollowing⟩ := extract_of_fits (hfits _ hkeyword)
  rw [← hextracted] at hwhole hfollowing
  exact ⟨hwhole, hfollowing⟩

end

/-! ## A number that is cut -/

/-- The language on ASCII texts, integers as their numerals. -/
def ascii : Language Rat where
  toLowerCase text := text.map fun c => if 65 ≤ c && c ≤ 90 then c + 32 else c
  canonicalize c := if 97 ≤ c && c ≤ 122 then c - 32 else c
  number word :=
    let digits := word.filter fun c => isDigit c || isPoint c
    let whole := digits.takeWhile isDigit
    let fraction := digits.drop (whole.length + 1)
    let magnitude : Rat := (whole ++ fraction).foldl (fun n c => 10 * n + (c.toNat - 48 : Nat)) 0 / 10 ^ fraction.length
    if word.any isMinus then -magnitude else magnitude
  isFinite _ := true
  compares
    | .gte, a, b => decide (b ≤ a)
    | .lte, a, b => decide (a ≤ b)
    | .eq, a, b => decide (a = b)
    | .gt, a, b => decide (b < a)
    | .lt, a, b => decide (a < b)
  toText value := units (toString value.num)
  test pattern text := .ok (Tickets.includes text pattern)

def enrolled : Units := units "Enrolled in total: 12345"

/-- The check of the number of enrolled students. -/
def enrolledCheck (window_chars : Option Rat) : Except String (PropertyCheckResult Rat) :=
  execute ascii (fun _ => none) enrolled
    { mode := some .number_extraction, field := [], keywords := some [units "enrolled"], window_chars } true

theorem numberFollows_enrolled : NumberFollows enrolled 8 19 24 := by
  have hread : numeralLength (enrolled.drop 19) = some 5 := by decide +kernel
  have hgap : (part enrolled 8 19).all isGap = true := by decide +kernel
  refine ⟨⟨reads_numeralLength.occurs hread, fun c d hcd hc hd => ?_⟩, by decide, by decide, List.all_eq_true.mp hgap⟩
  obtain ⟨-, x, hx, hhead⟩ := occurs_head hcd
  have hbound := hcd.bound
  have hlength : enrolled.length = 24 := by decide +kernel
  have hgaps : ∀ c < 19, (enrolled[c]?.all isGap) = true := by decide +kernel
  refine ⟨?_, by omega⟩
  by_contra hne
  have hgap := hgaps c (by omega)
  rw [hx, Option.all_some, hhead] at hgap
  cases hgap

theorem numbers_are_read_whole_enrolled : ∃ result, enrolledCheck none = .ok result ∧
    ∀ items, result.evidence.checks = some items → ∀ item ∈ items, ReadsWhole ascii enrolled item := by
  cases h : enrolledCheck none with
  | error _ =>
    have hok : (enrolledCheck none).isOk = true := by decide +kernel
    rw [h] at hok
    cases hok
  | ok result =>
    refine ⟨result, rfl, numbers_are_read_whole (fun keyword hkeyword => ?_) h⟩
    have hkeywords : keyword ∈ [units "enrolled"] := hkeyword
    obtain rfl := List.mem_singleton.mp hkeywords
    refine ⟨by decide +kernel, fun place hplace s e hbounds => .inl ⟨19, 24, ?_⟩⟩
    have hfirst : keywordIndex ascii enrolled (units "enrolled") = some 0 := by decide +kernel
    obtain rfl : 0 = place := Option.some.inj (hfirst.symm.trans hplace)
    have hwindow : contextBounds enrolled (units "enrolled") none 0 = (0, 24) := by decide +kernel
    obtain ⟨rfl, rfl⟩ := Prod.mk.inj (hwindow.symm.trans hbounds)
    exact ⟨numberFollows_enrolled, Nat.le_refl _, Nat.le_refl _⟩

/-- With a window of 30 characters, 1234 is extracted. -/
theorem the_window_cuts_a_number : ¬ ∀ (Number : Type) (language : Language Number)
    (documentMetadata : Units → Option Units) (text : Units) (ruleConfig : PropertyCheckConfig Number)
    (matches_pattern : Bool) (result : PropertyCheckResult Number),
    execute language documentMetadata text ruleConfig matches_pattern = .ok result →
      ∀ items, result.evidence.checks = some items → ∀ item ∈ items, ReadsWhole language text item := by
  intro h
  cases hcheck : enrolledCheck (some 30) with
  | error _ =>
    have hok : (enrolledCheck (some 30)).isOk = true := by decide +kernel
    rw [hcheck] at hok
    cases hok
  | ok result =>
    have hread := h _ _ _ _ _ _ _ hcheck
    have hitems : result.evidence.checks.map (fun items => items.map fun item => (item.keyword, item.extracted)) =
        some [(units "enrolled", some 1234)] := by
      have hitems : (enrolledCheck (some 30)).toOption.map (fun result => result.evidence.checks.map fun items =>
          items.map fun item => (item.keyword, item.extracted)) = some (some [(units "enrolled", some 1234)]) := by
        decide +kernel
      rw [hcheck] at hitems
      exact Option.some.inj hitems
    obtain ⟨items, hchecks, hitems⟩ := Option.map_eq_some_iff.mp hitems
    obtain ⟨item, rest, rfl, hitem, -⟩ := List.map_eq_cons_iff.mp hitems
    obtain ⟨hkeyword, hextracted⟩ := Prod.mk.inj hitem
    have hfirst : firstPlace ascii enrolled item.keyword = some 0 := by
      rw [hkeyword]
      decide +kernel
    have hfollowing := (hread _ hchecks item List.mem_cons_self).following 0 hfirst 19 24 (by
      rw [hkeyword]
      exact numberFollows_enrolled)
    rw [hextracted] at hfollowing
    exact absurd hfollowing (by decide +kernel)

end ComplianceHub.Metrics
