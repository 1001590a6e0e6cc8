import ComplianceHub.Documents.Cycles
import ComplianceHub.Metrics.Deadlines
import Mathlib.Data.List.Infix

/-!
# Stored periods

* `parsePeriodBucket` : the bucket of the repository that a stored period is filed in;
* `CalendarPeriod`, `suffixPeriod` : a month, a quarter or a year, and the one that a canonical suffix stands for;
* `ReadsBack` : a stored period and year are read as that one, and its default deadline comes after its end;
* `stored_periods_are_read_back_iff` : they are, exactly where the upload has written them out.
-/

namespace ComplianceHub.Documents

open ComplianceHub.Lib
open ComplianceHub.Metrics (LocalDate calculateDeadline clamp compactMonth compactRange digitsValue hasQuarter
  inferSubmissionFrequency monthIndexOf monthOnly monthWithYear newDate parseInt parsePeriod quarterOnly quarterWithYear
  truncate yearOnly)

/-! ## Buckets -/

structure PeriodBucket where
  key : String
  label : String
  sortOrder : Nat
deriving DecidableEq, Repr

def monthNames : List String :=
  ["January", "February", "March", "April", "May", "June", "July", "August", "September", "October", "November", "December"]

def shortMonthNames : List String :=
  ["Jan", "Feb", "Mar", "Apr", "May", "Jun", "Jul", "Aug", "Sep", "Oct", "Nov", "Dec"]

def quarterLabels : List String := ["Jan–Mar", "Apr–Jun", "Jul–Sep", "Oct–Dec"]

/-- `names[i - 1]` -/
def nthName (names : List String) (i : Nat) : Option String := if i = 0 then none else names[i - 1]?

def monthBucket (digits : List Char) : PeriodBucket where
  key := "month-" ++ String.ofList digits
  label := (nthName monthNames (digitsValue digits)).getD ("Month " ++ toString (digitsValue digits))
  sortOrder := digitsValue digits

def rangeBucket (startM endM : Nat) : PeriodBucket where
  key := "q" ++ toString ((startM + 2) / 3)
  label := "Q" ++ toString ((startM + 2) / 3) ++ " (" ++ (nthName shortMonthNames startM).getD "undefined" ++ "–" ++
    (nthName shortMonthNames endM).getD "undefined" ++ ")"
  sortOrder := 100 + (startM + 2) / 3

def quarterBucket (q : Nat) : PeriodBucket where
  key := "q" ++ toString q
  label := "Q" ++ toString q ++ " (" ++ (nthName quarterLabels q).getD "undefined" ++ ")"
  sortOrder := 100 + q

def annualBucket : PeriodBucket := ⟨"annual", "Annual", 999⟩

def parsePeriodBucket (period : Option String) : PeriodBucket :=
  let p := trim (period.getD "")
  match compactMonth p.toList with
  | some (_, month) => monthBucket month
  | none =>
    match compactRange p.toList with
    | some (_, startM, endM) => rangeBucket (digitsValue startM) (digitsValue endM)
    | none =>
      match quarterWithYear p.toList with
      | some (_, q) => quarterBucket q
      | none =>
        if (yearOnly p.toList).isSome || p = "" then annualBucket
        else ⟨"other-" ++ p, p, 998⟩

/-! ## Months, quarters and years -/

inductive CalendarPeriod where
  | month (year month : Nat)
  | quarter (year quarter : Nat)
  | year (year : Nat)
deriving DecidableEq, Repr

namespace CalendarPeriod

def yearOf : CalendarPeriod → Nat
  | .month y _ => y
  | .quarter y _ => y
  | .year y => y

/-- Its last month, from 1 to 12. -/
def lastMonth : CalendarPeriod → Nat
  | .month _ m => m
  | .quarter _ q => 3 * q
  | .year _ => 12

def frequency : CalendarPeriod → SubmissionFrequency
  | .month _ _ => .monthly
  | .quarter _ _ => .quarterly
  | .year _ => .annual

def bucketKey : CalendarPeriod → String
  | .month _ m => "month-" ++ padStart2 (toString m)
  | .quarter _ q => "q" ++ toString q
  | .year _ => "annual"

def sortOrder : CalendarPeriod → Nat
  | .month _ m => m
  | .quarter _ q => 100 + q
  | .year _ => 999

/-- The deadline is in a later month. -/
def IsBefore (period : CalendarPeriod) (deadline : LocalDate) : Prop :=
  12 * (period.yearOf : Int) + (period.lastMonth - 1 : Int) < deadline.months

end CalendarPeriod

/-- The period that a canonical suffix stands for: four digits of the year, and `MM`, `Qn`, `MM-MM` or nothing. -/
def suffixPeriod (frequency : SubmissionFrequency) (suffix : List Char) : Option CalendarPeriod :=
  match frequency with
  | .monthly => (compactMonth suffix).bind fun (year, month) =>
    if 1 ≤ digitsValue month ∧ digitsValue month ≤ 12 then some (.month (digitsValue year) (digitsValue month)) else none
  | .quarterly =>
    match compactRange suffix with
    | some (year, startM, endM) =>
      if [(1, 3), (4, 6), (7, 9), (10, 12)].contains (digitsValue startM, digitsValue endM) then
        some (.quarter (digitsValue year) (digitsValue endM / 3))
      else none
    | none => (quarterWithYear suffix).map fun (year, quarter) => .quarter (digitsValue year) quarter
  | .annual => (yearOnly suffix).map fun year => .year (digitsValue year)
  | .custom => none

/-! ## Reading back -/

/-- A stored period and year are read as the period of a suffix, and the default deadline comes after its end. -/
structure ReadsAs (currentYear : Nat) (period : CalendarPeriod) (stored year : Option String) : Prop where
  key : (parsePeriodBucket stored).key = period.bucketKey
  sortOrder : (parsePeriodBucket stored).sortOrder = period.sortOrder
  inferred : ∃ text, stored = some text ∧ inferSubmissionFrequency text = period.frequency ∧
    parsePeriod text ((parseInt (year.getD "null").toList).getD currentYear) (some (inferSubmissionFrequency text)) {} =
      some ⟨period.yearOf, some (period.lastMonth - 1)⟩
  deadline : ∃ deadline, calculateDeadline currentYear stored year {} = some deadline ∧ period.IsBefore deadline

def ReadsBack (currentYear : Nat) (frequency : SubmissionFrequency) (suffix : String) (stored year : Option String) : Prop :=
  ∃ period, suffixPeriod frequency suffix.toList = some period ∧ ReadsAs currentYear period stored year

def ReportorialFrequency.toFrequency : ReportorialFrequency → SubmissionFrequency
  | .monthly => .monthly
  | .quarterly => .quarterly
  | .annual => .annual

/-- How often the document of an upload is due. -/
def submittedFrequency (s : Services) (db : DocumentDb) (dto : UploadDocumentDto) : Option SubmissionFrequency :=
  match dto.reportId with
  | none => (activeAssignment s db dto.normalized).map DocumentAssignment.submission_frequency
  | some id => (reportType db id).toOption.map fun type => type.submission_frequency.toFrequency

/-- The token of a report's period is one of those that are documented. -/
def IsDocumented (frequency : SubmissionFrequency) (period : Option String) : Prop :=
  match frequency with
  | .monthly => isText period = false ∨ ∃ month, 1 ≤ month ∧ month ≤ 12 ∧ period = some (padStart2 (toString month))
  | .quarterly => isText period = false ∨ ∃ quarter, 1 ≤ quarter ∧ quarter ≤ 4 ∧ period = some ("Q" ++ toString quarter)
  | _ => True

/-- The year of a report's suffix. -/
def suffixYear (s : Services) (dto : UploadDocumentDto) (frequency : SubmissionFrequency) : String :=
  if isText dto.year && (isText dto.period || frequency = .annual) then dto.year.getD "" else toString s.year

/-- The period is written out: in a report, with a year of four digits; in a submission of an assignment, as a quarter with
its year, or as the year itself or a blank. -/
def WritesOut (s : Services) (dto : UploadDocumentDto) (frequency : SubmissionFrequency) : Prop :=
  match dto.reportId, frequency with
  | some _, frequency => yearOnly (suffixYear s dto frequency).toList ≠ none
  | none, .quarterly => ∃ period, dto.period = some period ∧ quarterWithYear (trim period).toList ≠ none
  | none, .annual => ∃ period, dto.period = some period ∧ (trim period = "" ∨ dto.year = some (trim period))
  | none, _ => False

/-! ## Digits -/

theorem toNat_of_isDigit {c : Char} (h : c.isDigit = true) : 48 ≤ c.toNat ∧ c.toNat ≤ 57 := Char.isDigit_iff_toNat.mp h

theorem isSpace_of_isDigit {c : Char} (h : c.isDigit = true) : isSpace c = false := by
  have hbounds := toNat_of_isDigit h
  unfold isSpace
  simp only [Bool.or_eq_false_iff, Bool.and_eq_false_iff, decide_eq_false_iff_not]
  omega

theorem trim_eq_self {text : String} (h : ∀ c ∈ text.toList, isSpace c = false) : trim text = text := by
  have hfirst : text.toList.dropWhile isSpace = text.toList := by
    cases htext : text.toList with
    | nil => rfl
    | cons c rest =>
      rw [htext] at h
      exact List.dropWhile_cons_of_neg (by rw [h c List.mem_cons_self]; exact Bool.false_ne_true)
  have hlast : text.toList.reverse.dropWhile isSpace = text.toList.reverse := by
    cases htext : text.toList.reverse with
    | nil => rfl
    | cons c rest =>
      have hmem : c ∈ text.toList := by
        rw [← List.mem_reverse, htext]
        exact List.mem_cons_self
      exact List.dropWhile_cons_of_neg (by rw [h c hmem]; exact Bool.false_ne_true)
  rw [trim, hfirst, hlast, List.reverse_reverse, String.ofList_toList]

theorem yearOnly_ne_none {text : List Char} (h : yearOnly text ≠ none) :
    yearOnly text = some text ∧ ∃ a b c d, text = [a, b, c, d] ∧ a.isDigit = true ∧ b.isDigit = true ∧ c.isDigit = true ∧
      d.isDigit = true := by
  unfold yearOnly at h ⊢
  split_ifs at h ⊢ with hfour
  · refine ⟨rfl, ?_⟩
    obtain ⟨hlength, hdigits⟩ := hfour
    match text, hlength with
    | [a, b, c, d], _ =>
      simp only [List.all_cons, List.all_nil, Bool.and_true, Bool.and_eq_true] at hdigits
      exact ⟨a, b, c, d, rfl, hdigits⟩
  · exact absurd rfl h

theorem hasQuarter_eq_false {text : List Char} (h : ∀ c ∈ text, c ≠ 'Q' ∧ c ≠ 'q') : hasQuarter text = false := by
  unfold hasQuarter
  rw [List.any_eq_false]
  intro rest hrest
  have hsuffix := (List.mem_tails _ _).mp hrest
  match rest with
  | [] => decide
  | [c] => exact Bool.false_ne_true
  | q :: n :: more =>
    have hq := h q (hsuffix.subset List.mem_cons_self)
    show ¬ (if q = 'Q' ∨ q = 'q' then quarterDigit n else none).isSome = true
    rw [if_neg fun heq => heq.elim hq.1 hq.2]
    exact Bool.false_ne_true

theorem ne_Q_of_isDigit {c : Char} (h : c.isDigit = true) : c ≠ 'Q' ∧ c ≠ 'q' := by
  constructor
  · rintro rfl
    exact absurd h (by decide)
  · rintro rfl
    exact absurd h (by decide)

/-- The text of a month. -/
theorem padStart2_month {n : Nat} (hpos : 1 ≤ n) (hle : n ≤ 12) : ∃ m k, (padStart2 (toString n)).toList = [m, k] ∧
    m.isDigit = true ∧ k.isDigit = true ∧ digitsValue [m, k] = n := by
  have hall : ∀ n ∈ List.range 13, 1 ≤ n → (padStart2 (toString n)).toList.length = 2 ∧
      (padStart2 (toString n)).toList.all Char.isDigit = true ∧ digitsValue (padStart2 (toString n)).toList = n := by
    decide +kernel
  obtain ⟨hlength, hdigits, hvalue⟩ := hall n (List.mem_range.mpr (by omega)) hpos
  generalize (padStart2 (toString n)).toList = text at hlength hdigits hvalue
  match text, hlength with
  | [m, k], _ =>
    simp only [List.all_cons, List.all_nil, Bool.and_true, Bool.and_eq_true] at hdigits
    exact ⟨m, k, rfl, hdigits.1, hdigits.2, hvalue⟩

theorem parseInt_year {text : List Char} (h : yearOnly text ≠ none) : parseInt text = some (digitsValue text : Int) := by
  obtain ⟨-, a, b, c, d, rfl, ha, hb, hc, hd⟩ := yearOnly_ne_none h
  have hsign : ¬ (a = '-' ∨ a = '+') := by
    rintro (rfl | rfl)
    · exact absurd ha (by decide)
    · exact absurd ha (by decide)
  have hminus : a ≠ '-' := fun heq => hsign (.inl heq)
  unfold parseInt
  rw [List.dropWhile_cons_of_neg (by rw [isSpace_of_isDigit ha]; exact Bool.false_ne_true)]
  simp only [if_neg hsign, if_neg hminus]
  rw [List.takeWhile_cons_of_pos ha, List.takeWhile_cons_of_pos hb, List.takeWhile_cons_of_pos hc,
    List.takeWhile_cons_of_pos hd, List.takeWhile_nil, if_neg (List.cons_ne_nil _ _)]

/-- Years of four digits are the same where their numbers are. -/
theorem digitsValue_inj {x y : List Char} (hx : yearOnly x ≠ none) (hy : yearOnly y ≠ none)
    (h : digitsValue x = digitsValue y) : x = y := by
  obtain ⟨-, a, b, c, d, rfl, ha, hb, hc, hd⟩ := yearOnly_ne_none hx
  obtain ⟨-, a', b', c', d', rfl, ha', hb', hc', hd'⟩ := yearOnly_ne_none hy
  have hchar : ∀ c c' : Char, c.toNat = c'.toNat → c = c' := fun c c' h => Char.toNat_inj.mp h
  simp only [digitsValue, List.foldl_cons, List.foldl_nil, show '0'.toNat = 48 from rfl] at h
  have := toNat_of_isDigit ha
  have := toNat_of_isDigit hb
  have := toNat_of_isDigit hc
  have := toNat_of_isDigit hd
  have := toNat_of_isDigit ha'
  have := toNat_of_isDigit hb'
  have := toNat_of_isDigit hc'
  have := toNat_of_isDigit hd'
  rw [hchar a a' (by omega), hchar b b' (by omega), hchar c c' (by omega), hchar d d' (by omega)]

/-! ## Notations -/

section
variable {text : List Char} {a b c d : Char}

theorem compactMonth_eq_some {year month : List Char} (h : compactMonth text = some (year, month)) :
    text = year ++ month ∧ yearOnly year ≠ none ∧ ∃ m k, month = [m, k] ∧ m.isDigit = true ∧ k.isDigit = true := by
  unfold compactMonth at h
  split at h
  · rename_i a b c d m n
    split_ifs at h with hdigits
    cases h
    simp only [List.all_cons, List.all_nil, Bool.and_true, Bool.and_eq_true] at hdigits
    obtain ⟨ha, hb, hc, hd, hm, hn⟩ := hdigits
    refine ⟨rfl, ?_, m, n, rfl, hm, hn⟩
    simp [yearOnly, ha, hb, hc, hd]
  · cases h

theorem compactRange_eq_some {year startM endM : List Char} (h : compactRange text = some (year, startM, endM)) :
    text = year ++ startM ++ '-' :: endM ∧ yearOnly year ≠ none ∧ startM.length = 2 ∧ endM.length = 2 ∧
      (startM ++ endM).all Char.isDigit = true := by
  unfold compactRange at h
  split at h
  · rename_i a b c d m n dash p q
    split_ifs at h with hdigits
    cases h
    simp only [List.all_cons, List.all_nil, Bool.and_true, Bool.and_eq_true, decide_eq_true_eq] at hdigits
    obtain ⟨⟨ha, hb, hc, hd, hm, hn, hp, hq⟩, rfl⟩ := hdigits
    refine ⟨rfl, ?_, rfl, rfl, ?_⟩
    · simp [yearOnly, ha, hb, hc, hd]
    · simp [hm, hn, hp, hq]
  · cases h

theorem quarterToken_eq_some {n : Char} (h : quarterToken text = some n) :
    (text = ['Q', n] ∨ text = ['q', n]) ∧ n ∈ ['1', '2', '3', '4'] := by
  unfold quarterToken quarterDigit at h
  split at h
  · rename_i q n'
    split_ifs at h with hq hn
    cases h
    refine ⟨?_, by simpa using hn⟩
    rcases hq with rfl | rfl
    · exact .inl rfl
    · exact .inr rfl
  · cases h

theorem quarterOnly_eq_some {q : Nat} (h : quarterOnly text = some q) :
    ∃ n, quarterToken text = some n ∧ q = n.toNat - '0'.toNat ∧ 1 ≤ q ∧ q ≤ 4 := by
  obtain ⟨n, hn, rfl⟩ := Option.map_eq_some_iff.mp h
  refine ⟨n, hn, rfl, ?_⟩
  have hmem := (quarterToken_eq_some hn).2
  simp only [List.mem_cons, List.not_mem_nil, or_false] at hmem
  rcases hmem with rfl | rfl | rfl | rfl
  · decide
  · decide
  · decide
  · decide

theorem quarterWithYear_eq_some {year : List Char} {q : Nat} (h : quarterWithYear text = some (year, q)) :
    yearOnly year ≠ none ∧ ∃ rest, (text = year ++ rest ∨ text = year ++ '-' :: rest) ∧ quarterOnly rest = some q := by
  unfold quarterWithYear at h
  split at h
  · rename_i a b c d rest
    split_ifs at h with hdigits hdash
    · obtain ⟨q', hq, hyear⟩ := Option.map_eq_some_iff.mp h
      cases hyear
      simp only [List.all_cons, List.all_nil, Bool.and_true, Bool.and_eq_true] at hdigits
      obtain ⟨ha, hb, hc, hd⟩ := hdigits
      obtain ⟨rest, rfl⟩ := List.head?_eq_some_iff.mp hdash
      exact ⟨by simp [yearOnly, ha, hb, hc, hd], rest, .inr rfl, hq⟩
    · obtain ⟨q', hq, hyear⟩ := Option.map_eq_some_iff.mp h
      cases hyear
      simp only [List.all_cons, List.all_nil, Bool.and_true, Bool.and_eq_true] at hdigits
      obtain ⟨ha, hb, hc, hd⟩ := hdigits
      exact ⟨by simp [yearOnly, ha, hb, hc, hd], rest, .inl rfl, hq⟩
  · cases h

theorem compactMonth_eq_none (h : text.length ≠ 6) : compactMonth text = none := by
  unfold compactMonth
  split
  · exact absurd rfl h
  · rfl

theorem compactRange_eq_none (h : text.length ≠ 9) : compactRange text = none := by
  unfold compactRange
  split
  · exact absurd rfl h
  · rfl

/-- A period with its year and a quarter is not read as digits only. -/
theorem compact_of_quarterWithYear {year : List Char} {q : Nat} (h : quarterWithYear text = some (year, q)) :
    compactMonth text = none ∧ compactRange text = none ∧ hasQuarter text = true := by
  obtain ⟨hyear, rest, htext, hq⟩ := quarterWithYear_eq_some h
  obtain ⟨-, a, b, c, d, rfl, -⟩ := yearOnly_ne_none hyear
  obtain ⟨n, hn, -⟩ := quarterOnly_eq_some hq
  have hquarter : ∀ before, hasQuarter (before ++ rest) = true := by
    intro before
    refine List.any_eq_true.mpr ⟨rest, (List.mem_tails _ _).mpr (List.suffix_append _ _), ?_⟩
    rcases (quarterToken_eq_some hn).1 with rfl | rfl
    · exact Option.isSome_iff_exists.mpr ⟨n, hn⟩
    · exact Option.isSome_iff_exists.mpr ⟨n, hn⟩
  rcases (quarterToken_eq_some hn).1 with hrest | hrest
  all_goals
    rcases htext with htext | htext
    · refine ⟨?_, ?_, htext ▸ hquarter _⟩
      · rw [htext, hrest]
        simp [compactMonth]
      · rw [htext, hrest]
        rfl
    · refine ⟨?_, ?_, ?_⟩
      · rw [htext, hrest]
        rfl
      · rw [htext, hrest]
        rfl
      · rw [htext]
        exact hquarter [a, b, c, d, '-']

end

/-! ## Reading back -/

section
variable {currentYear : Nat} {text : String} {year : Option String} {y : List Char}

theorem isBefore_newDate (period : CalendarPeriod) :
    period.IsBefore (newDate period.yearOf (truncate ((period.lastMonth - 1 : Int) + 1)) 5) := by
  have hmonth : truncate (((period.lastMonth - 1 : Int) : Rat) + 1) = period.lastMonth := by
    have hcast : (((period.lastMonth - 1 : Int) : Rat) + 1) = ((period.lastMonth : Int) : Rat) := by
      push_cast
      ring
    rw [hcast]
    unfold truncate
    split_ifs
    · exact Rat.floor_intCast _
    · exact Rat.ceil_intCast _
  unfold CalendarPeriod.IsBefore LocalDate.months newDate
  rw [hmonth]
  dsimp only
  split_ifs
  · omega
  · omega

/-- What a stored period is read as. -/
theorem ReadsAs.of_parsed {period : CalendarPeriod} (hkey : (parsePeriodBucket (some text)).key = period.bucketKey)
    (hsort : (parsePeriodBucket (some text)).sortOrder = period.sortOrder)
    (hinferred : inferSubmissionFrequency text = period.frequency)
    (hparsed : parsePeriod text ((parseInt (year.getD "null").toList).getD currentYear) (some period.frequency) {} =
      some ⟨period.yearOf, some (period.lastMonth - 1)⟩) : ReadsAs currentYear period (some text) year := by
  refine ⟨hkey, hsort, ⟨text, rfl, hinferred, by rw [hinferred, hparsed]⟩, _, ?_, isBefore_newDate period⟩
  unfold calculateDeadline
  dsimp only [Option.isSome_none, Bool.false_eq_true, if_false, Option.bind_some, Option.map_none, Option.filter_none]
  rw [hinferred, hparsed]
  rfl

theorem clamp_month {n : Nat} (hpos : 1 ≤ n) (hle : n ≤ 12) : clamp 0 11 (n - 1) = n - 1 := by
  unfold clamp
  omega

theorem hasQuarter_of_digits {word : List Char} (h : ∀ c ∈ word, c.isDigit = true ∨ c = '-') : hasQuarter word = false := by
  apply hasQuarter_eq_false
  intro c hc
  rcases h c hc with hdigit | rfl
  · exact ne_Q_of_isDigit hdigit
  · decide

/-- A month as six digits. -/
theorem readsAs_month {m : List Char} (h : compactMonth (trim text).toList = some (y, m)) (hpos : 1 ≤ digitsValue m)
    (hle : digitsValue m ≤ 12) (hkey : String.ofList m = padStart2 (toString (digitsValue m))) :
    ReadsAs currentYear (.month (digitsValue y) (digitsValue m)) (some text) year := by
  obtain ⟨htext, hyear, m₁, m₂, rfl, hm₁, hm₂⟩ := compactMonth_eq_some h
  obtain ⟨-, a, b, c, d, rfl, ha, hb, hc, hd⟩ := yearOnly_ne_none hyear
  have hquarter : hasQuarter (trim text).toList = false := by
    rw [htext]
    apply hasQuarter_of_digits
    simp [ha, hb, hc, hd, hm₁, hm₂]
  have hrange : compactRange (trim text).toList = none := compactRange_eq_none (by simp [htext])
  have hinferred : inferSubmissionFrequency text = .monthly := by
    unfold inferSubmissionFrequency
    dsimp only
    rw [hquarter, hrange, h]
    rfl
  refine .of_parsed ?_ ?_ hinferred ?_
  · rw [parsePeriodBucket, Option.getD_some, h]
    show "month-" ++ String.ofList [m₁, m₂] = _
    rw [hkey]
    rfl
  · rw [parsePeriodBucket, Option.getD_some, h]
    rfl
  · show Metrics.parseMonth (trim text).toList _ = _
    rw [Metrics.parseMonth, h]
    show some _ = some _
    rw [monthIndexOf, clamp_month hpos hle]
    rfl

/-- A quarter as a range of months. -/
theorem readsAs_range {startM endM : List Char} {q : Nat} (h : compactRange (trim text).toList = some (y, startM, endM))
    (hpos : 1 ≤ q) (hle : q ≤ 4) (hstart : digitsValue startM = 3 * q - 2) (hend : digitsValue endM = 3 * q) :
    ReadsAs currentYear (.quarter (digitsValue y) q) (some text) year := by
  obtain ⟨htext, hyear, hlength, hlength', hdigits⟩ := compactRange_eq_some h
  obtain ⟨-, a, b, c, d, rfl, ha, hb, hc, hd⟩ := yearOnly_ne_none hyear
  have hquarter : hasQuarter (trim text).toList = false := by
    rw [htext]
    apply hasQuarter_of_digits
    intro c hmem
    have hall := List.all_eq_true.mp hdigits
    simp only [List.mem_append, List.mem_cons, List.not_mem_nil, or_false] at hmem hall
    rcases hmem with ((rfl | rfl | rfl | rfl) | hmem) | rfl | hmem
    · exact .inl ha
    · exact .inl hb
    · exact .inl hc
    · exact .inl hd
    · exact .inl (hall c (.inl hmem))
    · exact .inr rfl
    · exact .inl (hall c (.inr hmem))
  have hmonth : compactMonth (trim text).toList = none := by
    apply compactMonth_eq_none
    simp [htext, hlength, hlength']
  have hinferred : inferSubmissionFrequency text = .quarterly := by
    unfold inferSubmissionFrequency
    dsimp only
    rw [hquarter, h]
    rfl
  have hindex : (3 * q - 2 + 2) / 3 = q := by omega
  refine .of_parsed ?_ ?_ hinferred ?_
  · rw [parsePeriodBucket, Option.getD_some, hmonth, h]
    show "q" ++ toString ((digitsValue startM + 2) / 3) = "q" ++ toString q
    rw [hstart, hindex]
  · rw [parsePeriodBucket, Option.getD_some, hmonth, h]
    show 100 + (digitsValue startM + 2) / 3 = 100 + q
    rw [hstart, hindex]
  · show Metrics.parseQuarter (trim text).toList _ = _
    rw [Metrics.parseQuarter, h]
    show some _ = some _
    rw [monthIndexOf, hend, clamp_month (by omega) (by omega)]
    rfl

/-- A quarter with its year. -/
theorem readsAs_quarter {q : Nat} (h : quarterWithYear (trim text).toList = some (y, q)) :
    ReadsAs currentYear (.quarter (digitsValue y) q) (some text) year := by
  obtain ⟨hmonth, hrange, hquarter⟩ := compact_of_quarterWithYear h
  have hinferred : inferSubmissionFrequency text = .quarterly := by
    unfold inferSubmissionFrequency
    dsimp only
    rw [hquarter]
    rfl
  refine .of_parsed ?_ ?_ hinferred ?_
  · rw [parsePeriodBucket, Option.getD_some, hmonth, hrange, h]
    rfl
  · rw [parsePeriodBucket, Option.getD_some, hmonth, hrange, h]
    rfl
  · show Metrics.parseQuarter (trim text).toList _ = _
    rw [Metrics.parseQuarter, hrange, h]
    show some (Metrics.ParsedPeriod.mk (digitsValue y : Int) (some ((q : Int) * 3 - 1))) =
      some ⟨(digitsValue y : Int), some (((3 * q : Nat) : Int) - 1)⟩
    rw [show (q : Int) * 3 - 1 = ((3 * q : Nat) : Int) - 1 by omega]

/-- A year, or a blank with its year in the other column. -/
theorem readsAs_year {value : Nat}
    (h : (yearOnly (trim text).toList ≠ none ∧ digitsValue (trim text).toList = value) ∨
      trim text = "" ∧ parseInt (year.getD "null").toList = some (value : Int)) :
    ReadsAs currentYear (.year value) (some text) year := by
  have hnotation : compactMonth (trim text).toList = none ∧ compactRange (trim text).toList = none ∧
      quarterWithYear (trim text).toList = none ∧ monthWithYear (trim text).toList = none ∧
        hasQuarter (trim text).toList = false ∧ ((yearOnly (trim text).toList).isSome || trim text = "") = true := by
    rcases h with ⟨hyear, -⟩ | ⟨hblank, -⟩
    · obtain ⟨hsome, a, b, c, d, htext, ha, hb, hc, hd⟩ := yearOnly_ne_none hyear
      rw [hsome, htext]
      refine ⟨rfl, rfl, ?_, rfl, hasQuarter_of_digits (by simp [ha, hb, hc, hd]), rfl⟩
      simp [quarterWithYear, quarterOnly, quarterToken]
    · rw [hblank]
      decide +kernel
  obtain ⟨hmonth, hrange, hquarter, hdashed, hnone, hannual⟩ := hnotation
  have hinferred : inferSubmissionFrequency text = .annual := by
    unfold inferSubmissionFrequency
    dsimp only
    rw [hnone, hrange, hmonth, hdashed]
    rfl
  have hbucket : parsePeriodBucket (some text) = annualBucket := by
    rw [parsePeriodBucket, Option.getD_some, hmonth, hrange, hquarter]
    exact if_pos hannual
  refine .of_parsed ?_ ?_ hinferred ?_
  · rw [hbucket]
    rfl
  · rw [hbucket]
    rfl
  · show some (Metrics.parseYear (trim text).toList _ {}) = _
    unfold Metrics.parseYear
    rcases h with ⟨hyear, hvalue⟩ | ⟨hblank, hvalue⟩
    · rw [(yearOnly_ne_none hyear).1]
      show some (Metrics.ParsedPeriod.mk (digitsValue (trim text).toList : Int) _) = _
      rw [hvalue]
      rfl
    · rw [hvalue, hblank]
      rfl

end

/-! ## The suffixes of reports -/

section
variable {currentYear : Nat} {stored year : Option String} {Y : String}

theorem toList_ne_nil_of_yearOnly {text : String} (h : yearOnly text.toList ≠ none) : text ≠ "" := by
  rintro rfl
  exact h rfl

theorem isSpace_of_digits {word : List Char} (h : ∀ c ∈ word, c.isDigit = true ∨ c = '-') : ∀ c ∈ word, isSpace c = false := by
  intro c hc
  rcases h c hc with hdigit | rfl
  · exact isSpace_of_isDigit hdigit
  · decide

theorem readsBack_month {n : Nat} (hpos : 1 ≤ n) (hle : n ≤ 12)
    (hstored : yearOnly Y.toList ≠ none → stored = some (Y ++ padStart2 (toString n))) :
    ReadsBack currentYear .monthly (Y ++ padStart2 (toString n)) stored year ↔ yearOnly Y.toList ≠ none := by
  obtain ⟨m, k, htext, hm, hk, hvalue⟩ := padStart2_month hpos hle
  have hlist : (Y ++ padStart2 (toString n)).toList = Y.toList ++ [m, k] := by rw [String.toList_append, htext]
  constructor
  · rintro ⟨period, hperiod, -⟩
    rw [suffixPeriod, hlist] at hperiod
    obtain ⟨⟨y, month⟩, hcompact, -⟩ := Option.bind_eq_some_iff.mp hperiod
    obtain ⟨hsame, hyear, m', k', rfl, -⟩ := compactMonth_eq_some hcompact
    rw [(List.append_inj' hsame rfl).1]
    exact hyear
  · intro hyear
    rw [hstored hyear]
    obtain ⟨-, a, b, c, d, hY, ha, hb, hc, hd⟩ := yearOnly_ne_none hyear
    have hcompact : compactMonth (Y.toList ++ [m, k]) = some (Y.toList, [m, k]) := by
      rw [hY]
      simp [compactMonth, ha, hb, hc, hd, hm, hk]
    have htrim : trim (Y ++ padStart2 (toString n)) = Y ++ padStart2 (toString n) := by
      apply trim_eq_self
      rw [hlist, hY]
      apply isSpace_of_digits
      simp [ha, hb, hc, hd, hm, hk]
    refine ⟨.month (digitsValue Y.toList) n, ?_, ?_⟩
    · rw [suffixPeriod, hlist, hcompact]
      show (if 1 ≤ digitsValue [m, k] ∧ digitsValue [m, k] ≤ 12 then _ else none) = _
      rw [hvalue, if_pos ⟨hpos, hle⟩]
    · have hkey : String.ofList [m, k] = padStart2 (toString (digitsValue [m, k])) := by
        rw [hvalue, ← htext, String.ofList_toList]
      rw [← hlist, ← htrim] at hcompact
      have hreads : ReadsAs currentYear (.month (digitsValue Y.toList) (digitsValue [m, k]))
          (some (Y ++ padStart2 (toString n))) year := readsAs_month hcompact (by omega) (by omega) hkey
      rw [hvalue] at hreads
      exact hreads

theorem readsBack_quarter {q : Nat} (hpos : 1 ≤ q) (hle : q ≤ 4)
    (hstored : yearOnly Y.toList ≠ none → stored = some (quarterSuffix Y q)) :
    ReadsBack currentYear .quarterly (quarterSuffix Y q) stored year ↔ yearOnly Y.toList ≠ none := by
  obtain ⟨m, k, htext, hm, hk, hvalue⟩ := padStart2_month (n := (q - 1) * 3 + 1) (by omega) (by omega)
  obtain ⟨m', k', htext', hm', hk', hvalue'⟩ := padStart2_month (n := q * 3) (by omega) (by omega)
  have hlist : (quarterSuffix Y q).toList = Y.toList ++ [m, k, '-', m', k'] := by
    rw [quarterSuffix, String.toList_append, String.toList_append, String.toList_append, htext, htext']
    simp
  constructor
  · rintro ⟨period, hperiod, -⟩
    rw [suffixPeriod, hlist] at hperiod
    dsimp only at hperiod
    split at hperiod
    · rename_i y startM endM hcompact
      obtain ⟨hsame, hyear, hlength, hlength', -⟩ := compactRange_eq_some hcompact
      rw [List.append_assoc] at hsame
      rw [(List.append_inj' hsame (by simp [hlength, hlength'])).1]
      exact hyear
    · -- a digit stands where the other notation has its Q
      obtain ⟨⟨y, quarter⟩, hcompact, -⟩ := Option.map_eq_some_iff.mp hperiod
      obtain ⟨-, rest, hsame, hquarter⟩ := quarterWithYear_eq_some hcompact
      obtain ⟨n, hn, -⟩ := quarterOnly_eq_some hquarter
      have hlast : ∃ before, Y.toList ++ [m, k, '-'] ++ [m', k'] = before ++ rest := by
        rcases hsame with hsame | hsame
        · exact ⟨y, by rw [← hsame, List.append_assoc]; rfl⟩
        · exact ⟨y ++ ['-'], by rw [List.append_assoc, List.append_assoc]; exact hsame⟩
      obtain ⟨before, hlast⟩ := hlast
      rcases (quarterToken_eq_some hn).1 with rfl | rfl
      · have hend := (List.append_inj' hlast rfl).2
        cases hend
        exact absurd hm' (by decide)
      · have hend := (List.append_inj' hlast rfl).2
        cases hend
        exact absurd hm' (by decide)
  · intro hyear
    rw [hstored hyear]
    obtain ⟨-, a, b, c, d, hY, ha, hb, hc, hd⟩ := yearOnly_ne_none hyear
    have hcompact : compactRange (Y.toList ++ [m, k, '-', m', k']) = some (Y.toList, [m, k], [m', k']) := by
      rw [hY]
      simp [compactRange, ha, hb, hc, hd, hm, hk, hm', hk']
    have htrim : trim (quarterSuffix Y q) = quarterSuffix Y q := by
      apply trim_eq_self
      rw [hlist, hY]
      apply isSpace_of_digits
      simp [ha, hb, hc, hd, hm, hk, hm', hk']
    refine ⟨.quarter (digitsValue Y.toList) q, ?_, ?_⟩
    · rw [suffixPeriod, hlist, hcompact]
      dsimp only
      rw [hvalue, hvalue', if_pos, show q * 3 / 3 = q by omega]
      obtain rfl | rfl | rfl | rfl : q = 1 ∨ q = 2 ∨ q = 3 ∨ q = 4 := by omega
      all_goals decide
    · rw [← hlist, ← htrim] at hcompact
      exact readsAs_range hcompact hpos hle (by omega) (by omega)

theorem readsBack_year (hstored : yearOnly Y.toList ≠ none → stored = some Y) :
    ReadsBack currentYear .annual Y stored year ↔ yearOnly Y.toList ≠ none := by
  constructor
  · rintro ⟨period, hperiod, -⟩
    obtain ⟨y, hyear, -⟩ := Option.map_eq_some_iff.mp hperiod
    rw [hyear]
    exact Option.some_ne_none y
  · intro hyear
    rw [hstored hyear]
    obtain ⟨hsome, a, b, c, d, hY, ha, hb, hc, hd⟩ := yearOnly_ne_none hyear
    have htrim : trim Y = Y := by
      apply trim_eq_self
      rw [hY]
      apply isSpace_of_digits
      simp [ha, hb, hc, hd]
    refine ⟨.year (digitsValue Y.toList), ?_, readsAs_year (.inl ?_)⟩
    · rw [suffixPeriod, hsome]
      rfl
    · rw [htrim]
      exact ⟨hyear, rfl⟩

end

/-! ## The suffixes of assignments -/

section
variable {currentYear : Nat} {period : String} {year stored : Option String} {suffix : String} {text : List Char}

theorem fourDigits_eq_some {y : String} (h : fourDigits text = some y) : yearOnly text ≠ none ∧ y = String.ofList text := by
  unfold fourDigits at h
  split_ifs at h with hfour
  cases h
  refine ⟨?_, rfl⟩
  rw [yearOnly, if_pos hfour]
  exact Option.some_ne_none _

theorem monthDigits_eq_some {m : String} (h : monthDigits text = some m) :
    1 ≤ text.length ∧ text.length ≤ 2 ∧ ∀ c ∈ text, c.isDigit = true := by
  unfold monthDigits at h
  split_ifs at h with hmonth
  exact ⟨hmonth.1, hmonth.2.1, List.all_eq_true.mp hmonth.2.2⟩

theorem monthlyWithYear_eq_some (h : monthlyWithYear text = some suffix) :
    ∃ y m, text = y ++ '-' :: m ∧ y.length = 4 ∧ 1 ≤ m.length ∧ m.length ≤ 2 ∧ ∀ c ∈ m, c.isDigit = true := by
  obtain ⟨y, hy, h⟩ := Option.bind_eq_some_iff.mp h
  obtain ⟨m, hm, h⟩ := Option.bind_eq_some_iff.mp h
  split_ifs at h with hdash
  obtain ⟨hpos, hle, hdigits⟩ := monthDigits_eq_some hm
  obtain ⟨-, a, b, c, d, htake, -⟩ := yearOnly_ne_none (fourDigits_eq_some hy).1
  refine ⟨text.take 4, text.drop 5, ?_, by rw [htake]; rfl, hpos, hle, hdigits⟩
  rw [List.length_drop] at hpos
  have hget : text[4] = '-' := by
    rw [List.getElem?_eq_getElem (by omega)] at hdash
    exact Option.some.inj hdash
  rw [← hget, ← List.drop_eq_getElem_cons, List.take_append_drop]

theorem sortOrder_other (hmonth : compactMonth (trim period).toList = none) (hrange : compactRange (trim period).toList = none)
    (hquarter : quarterWithYear (trim period).toList = none) (hyear : yearOnly (trim period).toList = none)
    (hne : trim period ≠ "") : (parsePeriodBucket (some period)).sortOrder = 998 := by
  rw [parsePeriodBucket, Option.getD_some, hmonth, hrange, hquarter, hyear]
  show (if (none : Option (List Char)).isSome || trim period = "" then annualBucket else _).sortOrder = 998
  rw [if_neg]
  simpa using hne

theorem quarterOnly_of_digits {m : List Char} (h : ∀ c ∈ m, c.isDigit = true) : quarterOnly m = none := by
  by_contra hsome
  obtain ⟨q, hq⟩ := Option.ne_none_iff_exists'.mp hsome
  obtain ⟨n, hn, -⟩ := quarterOnly_eq_some hq
  rcases (quarterToken_eq_some hn).1 with rfl | rfl
  · exact absurd (h 'Q' List.mem_cons_self) (by decide)
  · exact absurd (h 'q' List.mem_cons_self) (by decide)

theorem quarterWithYear_of_short (h : text.length < 4) : quarterWithYear text = none := by
  unfold quarterWithYear
  split
  · simp only [List.length_cons] at h
    omega
  · rfl

theorem yearOnly_eq_none (h : text.length ≠ 4) : yearOnly text = none := if_neg fun hfour => h hfour.1

theorem dashed_month {a b c d : Char} {m : List Char} (hpos : 1 ≤ m.length) (hle : m.length ≤ 2)
    (hdigits : ∀ c ∈ m, c.isDigit = true) :
    compactMonth ([a, b, c, d] ++ '-' :: m) = none ∧ quarterWithYear ([a, b, c, d] ++ '-' :: m) = none := by
  constructor
  · by_cases hone : m.length = 1
    · obtain ⟨m₁, rfl⟩ := List.length_eq_one_iff.mp hone
      simp [compactMonth]
    · apply compactMonth_eq_none
      simp
      omega
  · simp [quarterWithYear, quarterOnly_of_digits hdigits]

/-- A month of an assignment is stored in a notation that has no bucket. -/
theorem sortOrder_getMonthlySuffix {yearStr : String} (h : getMonthlySuffix period yearStr = .ok suffix) :
    (parsePeriodBucket (some period)).sortOrder = 998 := by
  have hnotation : (∃ y m, (trim period).toList = y ++ '-' :: m ∧ y.length = 4 ∧ 1 ≤ m.length ∧ m.length ≤ 2 ∧
      ∀ c ∈ m, c.isDigit = true) ∨ 1 ≤ (trim period).toList.length ∧ (trim period).toList.length ≤ 2 := by
    unfold getMonthlySuffix at h
    cases hdashed : monthlyWithYear (trim period).toList with
    | some found => exact .inl (monthlyWithYear_eq_some hdashed)
    | none =>
      rw [hdashed] at h
      cases hdigits : monthDigits (trim period).toList with
      | some found =>
        obtain ⟨hpos, hle, -⟩ := monthDigits_eq_some hdigits
        exact .inr ⟨hpos, hle⟩
      | none =>
        rw [hdigits] at h
        cases h
  have hne : (trim period).toList.length ≠ 0 → trim period ≠ "" := by
    intro hlength heq
    rw [heq] at hlength
    exact hlength rfl
  rcases hnotation with ⟨y, m, htext, hy, hpos, hle, hdigits⟩ | ⟨hpos, hle⟩
  · obtain ⟨a, b, c, d, rfl⟩ := List.length_eq_four.mp hy
    have hlength : (trim period).toList.length = 5 + m.length := by
      rw [htext, List.length_append, hy, List.length_cons]
      omega
    obtain ⟨hmonth, hquarter⟩ := dashed_month (a := a) (b := b) (c := c) (d := d) hpos hle hdigits
    rw [← htext] at hmonth hquarter
    exact sortOrder_other hmonth (compactRange_eq_none (by omega)) hquarter (yearOnly_eq_none (by omega)) (hne (by omega))
  · exact sortOrder_other (compactMonth_eq_none (by omega)) (compactRange_eq_none (by omega))
      (quarterWithYear_of_short (by omega)) (yearOnly_eq_none (by omega)) (hne (by omega))

theorem sortOrder_suffixPeriod {frequency : SubmissionFrequency} {found : CalendarPeriod}
    (h : suffixPeriod frequency text = some found) : found.sortOrder ≠ 998 := by
  unfold suffixPeriod at h
  split at h
  · obtain ⟨⟨y, m⟩, -, h⟩ := Option.bind_eq_some_iff.mp h
    dsimp only at h
    split_ifs at h with hmonth
    cases h
    show digitsValue m ≠ 998
    omega
  · split at h
    · rename_i y startM endM hcompact
      split_ifs at h with hmonths
      cases h
      simp only [List.contains_eq_mem, List.mem_cons, List.not_mem_nil, or_false, Prod.mk.injEq, decide_eq_true_eq] at hmonths
      show 100 + digitsValue endM / 3 ≠ 998
      omega
    · obtain ⟨⟨y, q⟩, hquarter, h⟩ := Option.map_eq_some_iff.mp h
      cases h
      obtain ⟨-, rest, -, hq⟩ := quarterWithYear_eq_some hquarter
      obtain ⟨-, -, -, -, hle⟩ := quarterOnly_eq_some hq
      show 100 + q ≠ 998
      omega
  · obtain ⟨y, -, h⟩ := Option.map_eq_some_iff.mp h
    cases h
    show 999 ≠ 998
    decide
  · cases h

/-- The quarter with its year of an assignment, and its suffix. -/
theorem quarterlyWithYear_eq_some (h : quarterlyWithYear text = some suffix) :
    ∃ y q n, quarterWithYear text = some (y, q) ∧ quarterOnly ['Q', n] = some q ∧ suffix.toList = y ++ ['Q', n] := by
  obtain ⟨y, hy, h⟩ := Option.bind_eq_some_iff.mp h
  obtain ⟨n, hn, hsuffix⟩ : ∃ n, (if text[4]? = some '-' then quarterToken (text.drop 5) else quarterToken (text.drop 4)) = some n ∧
      y ++ "Q" ++ String.ofList [n] = suffix := by
    dsimp only at h
    split_ifs at h ⊢
    · obtain ⟨n, hn, h⟩ := Option.bind_eq_some_iff.mp h
      exact ⟨n, hn, Option.some.inj h⟩
    · obtain ⟨n, hn, h⟩ := Option.bind_eq_some_iff.mp h
      exact ⟨n, hn, Option.some.inj h⟩
  subst hsuffix
  obtain ⟨hyear, rfl⟩ := fourDigits_eq_some hy
  obtain ⟨-, a, b, c, d, htake, ha, hb, hc, hd⟩ := yearOnly_ne_none hyear
  have htext : text = a :: b :: c :: d :: text.drop 4 := by
    have hsplit := List.take_append_drop 4 text
    rw [htake] at hsplit
    exact hsplit.symm
  have hhead : text[4]? = (text.drop 4).head? := by rw [List.head?_drop]
  have htail : text.drop 5 = (text.drop 4).tail := by rw [List.tail_drop]
  rw [hhead, htail] at hn
  have hquarter : quarterToken (if (text.drop 4).head? = some '-' then (text.drop 4).tail else text.drop 4) = some n := by
    split_ifs at hn ⊢ with hdash
    · exact hn
    · exact hn
  have hQ : quarterToken ['Q', n] = some n := by
    have hmem := (quarterToken_eq_some hquarter).2
    simp only [List.mem_cons, List.not_mem_nil, or_false] at hmem
    rcases hmem with rfl | rfl | rfl | rfl
    · decide
    · decide
    · decide
    · decide
  refine ⟨[a, b, c, d], n.toNat - '0'.toNat, n, ?_, ?_, ?_⟩
  · rw [htext, quarterWithYear, if_pos (by simp [ha, hb, hc, hd]), quarterOnly, hquarter]
    rfl
  · rw [quarterOnly, hQ]
    rfl
  · simp [htake]

theorem quarterlyWithYear_eq_none (h : quarterlyWithYear text = none) : quarterWithYear text = none := by
  by_contra hsome
  obtain ⟨⟨y, q⟩, hquarter⟩ := Option.ne_none_iff_exists'.mp hsome
  obtain ⟨hyear, rest, htext, hq⟩ := quarterWithYear_eq_some hquarter
  obtain ⟨-, a, b, c, d, rfl, ha, hb, hc, hd⟩ := yearOnly_ne_none hyear
  obtain ⟨n, hn, -⟩ := quarterOnly_eq_some hq
  have hfour : fourDigits [a, b, c, d] = some (String.ofList [a, b, c, d]) := by simp [fourDigits, ha, hb, hc, hd]
  have hhead : rest[0]? ≠ some '-' := by
    rcases (quarterToken_eq_some hn).1 with rfl | rfl
    · simp
    · simp
  rcases htext with rfl | rfl
  · simp [quarterlyWithYear, hfour, hhead, hn] at h
  · simp [quarterlyWithYear, hfour, hn] at h

/-- The quarter of an assignment is read back where its year is written with it. -/
theorem readsBack_getQuarterlySuffix {yearStr : String} (h : getQuarterlySuffix period yearStr = .ok suffix) :
    ReadsBack currentYear .quarterly suffix (some period) year ↔ quarterWithYear (trim period).toList ≠ none := by
  unfold getQuarterlySuffix at h
  cases hdashed : quarterlyWithYear (trim period).toList with
  | some found =>
    rw [hdashed] at h
    cases h
    obtain ⟨y, q, n, hquarter, hn, hsuffix⟩ := quarterlyWithYear_eq_some hdashed
    refine ⟨fun _ => by rw [hquarter]; exact Option.some_ne_none _, fun _ => ⟨.quarter (digitsValue y) q, ?_, readsAs_quarter hquarter⟩⟩
    obtain ⟨hyear, -⟩ := quarterWithYear_eq_some hquarter
    obtain ⟨-, a, b, c, d, rfl, ha, hb, hc, hd⟩ := yearOnly_ne_none hyear
    rw [suffixPeriod, hsuffix]
    dsimp only
    rw [compactRange_eq_none (by simp)]
    simp [quarterWithYear, ha, hb, hc, hd, hn]
  | none =>
    have hnone := quarterlyWithYear_eq_none hdashed
    refine ⟨?_, fun hsome => absurd hnone hsome⟩
    rintro ⟨found, hfound, hreads⟩
    rw [hdashed] at h
    cases hq : quarterToken (trim period).toList with
    | none =>
      rw [hq] at h
      cases h
    | some n =>
      have hlength : (trim period).toList.length = 2 := by
        rcases (quarterToken_eq_some hq).1 with heq | heq
        · rw [heq]
          rfl
        · rw [heq]
          rfl
      have hother := sortOrder_other (compactMonth_eq_none (by omega)) (compactRange_eq_none (by omega)) hnone
        (yearOnly_eq_none (by omega)) fun hblank => by
          rw [hblank] at hlength
          exact absurd hlength (by decide)
      exact absurd (hreads.sortOrder.symm.trans hother) (sortOrder_suffixPeriod hfound)

theorem sortOrder_lt_of_ne_year (hnone : ((yearOnly (trim period).toList).isSome || trim period = "") = false) :
    (parsePeriodBucket (some period)).sortOrder < 999 := by
  have hdigit : ∀ c : Char, c.isDigit = true → c.toNat - '0'.toNat ≤ 9 := by
    intro c hc
    have hbounds := toNat_of_isDigit hc
    show c.toNat - 48 ≤ 9
    omega
  rw [parsePeriodBucket, Option.getD_some]
  split
  · rename_i y m hcompact
    obtain ⟨-, -, m₁, m₂, rfl, hm₁, hm₂⟩ := compactMonth_eq_some hcompact
    have h₁ := hdigit m₁ hm₁
    have h₂ := hdigit m₂ hm₂
    show 10 * (10 * 0 + (m₁.toNat - '0'.toNat)) + (m₂.toNat - '0'.toNat) < 999
    omega
  · split
    · rename_i y startM endM hcompact
      obtain ⟨-, -, hlength, -, hdigits⟩ := compactRange_eq_some hcompact
      obtain ⟨m₁, m₂, rfl⟩ := List.length_eq_two.mp hlength
      have hall := List.all_eq_true.mp hdigits
      have h₁ := hdigit m₁ (hall m₁ (by simp))
      have h₂ := hdigit m₂ (hall m₂ (by simp))
      show 100 + (10 * (10 * 0 + (m₁.toNat - '0'.toNat)) + (m₂.toNat - '0'.toNat) + 2) / 3 < 999
      omega
    · split
      · rename_i y q hquarter
        obtain ⟨-, rest, -, hq⟩ := quarterWithYear_eq_some hquarter
        obtain ⟨-, -, -, -, hle⟩ := quarterOnly_eq_some hq
        show 100 + q < 999
        omega
      · rw [hnone]
        show 998 < 999
        decide

/-- The year of an assignment is read back where the period is the year itself, or a blank. -/
theorem readsBack_getAnnualSuffix {yearStr : String} (h : getAnnualSuffix yearStr = .ok suffix) :
    ReadsBack currentYear .annual suffix stored (some yearStr) ↔
      ∃ period, stored = some period ∧ (trim period = "" ∨ yearStr = trim period) := by
  unfold getAnnualSuffix at h
  cases hfour : fourDigits yearStr.toList with
  | none =>
    rw [hfour] at h
    cases h
  | some found =>
    rw [hfour] at h
    cases h
    obtain ⟨hyear, rfl⟩ := fourDigits_eq_some hfour
    rw [String.ofList_toList]
    have hperiod : suffixPeriod .annual yearStr.toList = some (.year (digitsValue yearStr.toList)) := by
      rw [suffixPeriod, (yearOnly_ne_none hyear).1]
      rfl
    have hparse : parseInt ((some yearStr).getD "null").toList = some (digitsValue yearStr.toList : Int) :=
      parseInt_year hyear
    constructor
    · rintro ⟨found, hfound, hreads⟩
      cases hperiod.symm.trans hfound
      obtain ⟨period, rfl, hinferred, hparsed⟩ := hreads.inferred
      refine ⟨period, rfl, ?_⟩
      cases hannual : (yearOnly (trim period).toList).isSome || trim period = "" with
      | false =>
        have hlt := sortOrder_lt_of_ne_year hannual
        rw [hreads.sortOrder] at hlt
        exact absurd hlt (lt_irrefl 999)
      | true =>
        rcases Bool.or_eq_true_iff.mp hannual with hsome | hblank
        · right
          have hne : yearOnly (trim period).toList ≠ none := Option.isSome_iff_ne_none.mp hsome
          rw [hinferred] at hparsed
          change some (Metrics.parseYear (trim period).toList _ {}) = _ at hparsed
          unfold Metrics.parseYear at hparsed
          rw [(yearOnly_ne_none hne).1] at hparsed
          have hvalue : ((digitsValue (trim period).toList : Nat) : Int) = (digitsValue yearStr.toList : Nat) :=
            congrArg Metrics.ParsedPeriod.baseYear (Option.some.inj hparsed)
          have hsame := digitsValue_inj hyear hne (by omega)
          rw [← String.ofList_toList (s := yearStr), hsame, String.ofList_toList]
        · exact .inl (of_decide_eq_true hblank)
    · rintro ⟨period, rfl, hblank | rfl⟩
      · exact ⟨_, hperiod, readsAs_year (.inr ⟨hblank, hparse⟩)⟩
      · exact ⟨_, hperiod, readsAs_year (.inl ⟨hyear, rfl⟩)⟩

end

/-! ## Uploads -/

section
variable {s : Services} {db db' : DocumentDb} {dto : UploadDocumentDto} {currentYear : Nat}

theorem submission_withoutReplaced (existing : Option Document) :
    submission s (withoutReplaced existing db) dto = submission s db dto := by
  cases existing with
  | none => rfl
  | some document => rfl

/-- What an accepted upload has stored. -/
theorem stored_of_upload (h : uploadDocument s dto db = .ok () db') : ∃ filed document, submission s db dto = .ok filed ∧
    db'.documents.getLast? = some document ∧ document.period = filed.period ∧ document.year = filed.year := by
  obtain ⟨_, -, h⟩ := reads_bind_eq_ok (f := fun _ => assertValidFile dto.file) h
  obtain ⟨_, db₁, hvalidated, h⟩ := returned_bind h
  obtain ⟨filed, hfiled, h⟩ := reads_bind_eq_ok (f := fun db => submission s db dto) h
  obtain ⟨_, db₂, -, h⟩ := returned_bind h
  have hsame : submission s db₁ dto = submission s db dto := by
    unfold validateSubmission at hvalidated
    split_ifs at hvalidated
    · rw [validateFocalSubmission_eq_ok hvalidated, submission_withoutReplaced]
    · cases hvalidated
      rfl
  refine ⟨filed, uploaded s dto filed db₂.nextId, hsame.symm.trans hfiled, ?_, rfl, rfl⟩
  rw [storeDocument_eq_ok h]
  exact List.getLast?_concat

theorem append_ne_empty {a : String} (b : String) (h : a ≠ "") : a ++ b ≠ "" := by
  intro hempty
  have hlist := congrArg String.toList hempty
  rw [String.toList_append] at hlist
  exact h (String.toList_eq_nil_iff.mp (List.append_eq_nil_iff.mp hlist).1)

theorem toOption_eq_some {α ε : Type} {result : Except ε α} {a : α} (h : result.toOption = some a) : result = .ok a := by
  cases result with
  | ok _ =>
    cases h
    rfl
  | error _ => cases h

theorem present_eq_ok {period : Option String} {text : String} (h : present period = .ok text) : period = some text := by
  cases period with
  | some _ =>
    cases h
    rfl
  | none => cases h

theorem padStart2_padStart2 {n : Nat} (hpos : 1 ≤ n) (hle : n ≤ 12) :
    padStart2 (padStart2 (toString n)) = padStart2 (toString n) ∧ padStart2 (toString n) ≠ "" := by
  obtain ⟨m, k, htext, -⟩ := padStart2_month hpos hle
  generalize padStart2 (toString n) = text at htext
  have hlength : text.length = 2 := by rw [← String.length_toList, htext]; rfl
  refine ⟨?_, ?_⟩
  · rw [padStart2, hlength]
    exact String.empty_append
  · rintro rfl
    cases htext

/-- A suffix is made up of its year, and a month, a quarter or nothing. -/
def IsMadeUp (s : Services) (dto : UploadDocumentDto) (suffix : String) : ReportorialFrequency → Prop
  | .monthly => ∃ n, 1 ≤ n ∧ n ≤ 12 ∧ suffix = suffixYear s dto .monthly ++ padStart2 (toString n)
  | .quarterly => ∃ q, 1 ≤ q ∧ q ≤ 4 ∧ suffix = quarterSuffix (suffixYear s dto .quarterly) q
  | .annual => suffix = suffixYear s dto .annual

theorem isMadeUp_reportSuffix {type : ReportorialDocumentType} (hmonth : 1 ≤ s.month ∧ s.month ≤ 12)
    (h : IsDocumented type.submission_frequency.toFrequency dto.period) :
    IsMadeUp s dto (reportSuffix s dto type) type.submission_frequency := by
  have hyear : isText dto.year = true → (if dto.year.getD "" = "" then toString s.year else dto.year.getD "") = dto.year.getD "" := by
    intro htext
    cases hyear : dto.year with
    | none =>
      rw [hyear] at htext
      cases htext
    | some year =>
      rw [hyear] at htext
      exact if_neg (of_decide_eq_true htext)
  unfold reportSuffix
  generalize type.submission_frequency = frequency at h
  cases frequency with
  | monthly =>
    unfold IsMadeUp suffixYear
    simp only [reduceCtorEq, decide_false, Bool.or_false]
    rcases h with hblank | ⟨n, hpos, hle, hperiod⟩
    · rw [hblank, Bool.and_false, if_neg Bool.false_ne_true, if_neg Bool.false_ne_true]
      exact ⟨s.month, hmonth.1, hmonth.2, rfl⟩
    · obtain ⟨hsame, hne⟩ := padStart2_padStart2 hpos hle
      have htext : isText dto.period = true := by
        rw [hperiod, isText, Option.any_some]
        exact decide_eq_true hne
      rw [htext, Bool.and_true]
      split_ifs with hsent
      · refine ⟨n, hpos, hle, ?_⟩
        unfold computePeriodSuffixFromParts
        dsimp only
        rw [hyear hsent, hperiod, Option.getD_some, if_neg hne, hsame]
      · exact ⟨s.month, hmonth.1, hmonth.2, rfl⟩
  | quarterly =>
    unfold IsMadeUp suffixYear
    simp only [reduceCtorEq, decide_false, Bool.or_false]
    rcases h with hblank | ⟨q, hpos, hle, hperiod⟩
    · rw [hblank, Bool.and_false, if_neg Bool.false_ne_true, if_neg Bool.false_ne_true]
      exact ⟨(s.month + 2) / 3, by omega, by omega, rfl⟩
    · have htoken : ∀ q ∈ List.range 5, 1 ≤ q → isText (some ("Q" ++ toString q)) = true ∧
          quarterOf ("Q" ++ toString q).toList = some q := by
        decide +kernel
      obtain ⟨htext, hquarter⟩ := htoken q (List.mem_range.mpr (by omega)) hpos
      rw [← hperiod] at htext
      rw [htext, Bool.and_true]
      split_ifs with hsent
      · refine ⟨q, hpos, hle, ?_⟩
        unfold computePeriodSuffixFromParts
        dsimp only
        rw [hyear hsent, hperiod, Option.getD_some, hquarter, Option.getD_some]
      · exact ⟨(s.month + 2) / 3, by omega, by omega, rfl⟩
  | annual =>
    unfold IsMadeUp suffixYear
    simp only [decide_true, Bool.or_true, Bool.and_true]
    split_ifs with hsent
    · exact hyear hsent
    · rfl

/-- **Stored periods are read back** as the cycle of the suffix, exactly where the upload has written them out. -/
theorem stored_periods_are_read_back_iff {frequency : SubmissionFrequency} {cycle : Cycle}
    (h : uploadDocument s dto db = .ok () db') (hfrequency : submittedFrequency s db dto = some frequency)
    (hcycle : submittedCycle s db dto = some cycle) (hmonth : 1 ≤ s.month ∧ s.month ≤ 12)
    (hdocumented : dto.reportId ≠ none → IsDocumented frequency dto.period) :
    (∃ document, db'.documents.getLast? = some document ∧
      ReadsBack currentYear frequency cycle.suffix document.period document.year) ↔ WritesOut s dto frequency := by
  obtain ⟨filed, document, hfiled, hlast, hperiod, hyear⟩ := stored_of_upload h
  have hstored : (∃ document, db'.documents.getLast? = some document ∧
      ReadsBack currentYear frequency cycle.suffix document.period document.year) ↔
      ReadsBack currentYear frequency cycle.suffix filed.period filed.year := by
    rw [← hperiod, ← hyear]
    constructor
    · rintro ⟨other, hother, hreads⟩
      cases hlast.symm.trans hother
      exact hreads
    · exact fun hreads => ⟨document, hlast, hreads⟩
  rw [hstored]
  clear hstored
  unfold submission at hfiled
  unfold submittedFrequency at hfrequency
  unfold submittedCycle at hcycle
  unfold WritesOut
  cases hreport : dto.reportId with
  | some id =>
    rw [hreport] at hfiled hfrequency hcycle hdocumented
    dsimp only at hfiled hfrequency hcycle ⊢
    obtain ⟨type, htype, rfl⟩ := Option.map_eq_some_iff.mp hfrequency
    obtain ⟨type', htype', hfiled⟩ := bind_eq_ok.mp hfiled
    obtain ⟨_, -, hfiled⟩ := bind_eq_ok.mp hfiled
    rw [htype'] at htype hcycle
    cases htype
    cases hfiled
    cases hcycle
    have hmade := isMadeUp_reportSuffix hmonth (hdocumented (Option.some_ne_none id))
    generalize reportSuffix s dto type = suffix at hmade
    have hstored : suffix ≠ "" → some (orText (some suffix) (dto.period.getD "")) = some suffix := by
      intro hne
      rw [orText, Option.filter_some, if_pos (decide_eq_true hne)]
      rfl
    dsimp only
    generalize type.submission_frequency = frequency at hmade
    cases frequency with
    | monthly =>
      obtain ⟨n, hpos, hle, rfl⟩ := hmade
      exact readsBack_month hpos hle fun hyear => hstored (append_ne_empty _ (toList_ne_nil_of_yearOnly hyear))
    | quarterly =>
      obtain ⟨q, hpos, hle, rfl⟩ := hmade
      refine readsBack_quarter hpos hle fun hyear => hstored ?_
      exact append_ne_empty _ (append_ne_empty _ (append_ne_empty _ (toList_ne_nil_of_yearOnly hyear)))
    | annual =>
      subst hmade
      exact readsBack_year fun hyear => hstored (toList_ne_nil_of_yearOnly hyear)
  | none =>
    rw [hreport] at hfiled hfrequency hcycle
    dsimp only at hfiled hfrequency hcycle ⊢
    cases hfiled
    obtain ⟨assignment, hassignment, hfrequency⟩ := Option.map_eq_some_iff.mp hfrequency
    obtain ⟨assignment', hassignment', hcycle⟩ := Option.bind_eq_some_iff.mp hcycle
    cases hassignment.symm.trans hassignment'
    obtain ⟨suffix, hsuffix, hcycle⟩ := Option.bind_eq_some_iff.mp hcycle
    cases hcycle
    unfold canonicalSuffix at hsuffix
    rw [hfrequency] at hsuffix
    cases frequency with
    | monthly =>
      obtain ⟨period, hpresent, hsuffix⟩ := bind_eq_ok.mp (toOption_eq_some hsuffix)
      have hperiod := present_eq_ok hpresent
      refine ⟨?_, False.elim⟩
      rintro ⟨found, hfound, hreads⟩
      have hother := sortOrder_getMonthlySuffix hsuffix
      rw [← hperiod] at hother
      exact sortOrder_suffixPeriod hfound (hreads.sortOrder.symm.trans hother)
    | quarterly =>
      obtain ⟨period, hpresent, hsuffix⟩ := bind_eq_ok.mp (toOption_eq_some hsuffix)
      rw [present_eq_ok hpresent, readsBack_getQuarterlySuffix hsuffix]
      constructor
      · exact fun hquarter => ⟨period, rfl, hquarter⟩
      · rintro ⟨_, hsame, hquarter⟩
        cases hsame
        exact hquarter
    | annual =>
      have hannual : getAnnualSuffix (yearText dto.year) = .ok suffix := toOption_eq_some hsuffix
      cases hyear : dto.year with
      | none =>
        rw [hyear] at hannual
        have herror : getAnnualSuffix (yearText none) = .error (.badRequest "Annual reports require a 4-digit year") := rfl
        rw [herror] at hannual
        cases hannual
      | some yearStr =>
        rw [hyear] at hannual
        change getAnnualSuffix yearStr = .ok suffix at hannual
        have hne : yearStr ≠ "" := by
          rintro rfl
          cases hannual
        have hstored : orText (some yearStr) (toString s.year) = yearStr := by
          rw [orText, Option.filter_some, if_pos (decide_eq_true hne)]
          rfl
        show ReadsBack currentYear .annual suffix dto.period (some (orText (some yearStr) (toString s.year))) ↔
          ∃ period, dto.period = some period ∧ (trim period = "" ∨ some yearStr = some (trim period))
        rw [hstored, readsBack_getAnnualSuffix hannual]
        simp only [Option.some.injEq]
    | custom => cases hsuffix

end

/-! ## Two submissions -/

/-- A quarterly report of an assignment, with its year or without. -/
def quarterlyReport (period : String) : UploadDocumentDto :=
  { februaryReport "IR2026Q1.pdf" with period := some period }

def assignedQuarterly : DocumentDb where
  assignments := [{ id := 0, user_id := 1, unit_id := 5, document_type := "Incident Report", filename_prefix := some "IR"
                    submission_frequency := .quarterly }]
  nextId := 1

theorem upload_quarterlyReport (period : String) (h : raises (uploadDocument march2026 (quarterlyReport period)) assignedQuarterly = none) :
    uploadDocument march2026 (quarterlyReport period) assignedQuarterly =
      .ok () (leaves (uploadDocument march2026 (quarterlyReport period)) assignedQuarterly) := by
  unfold raises at h
  unfold leaves
  cases hresult : uploadDocument march2026 (quarterlyReport period) assignedQuarterly with
  | ok _ _ => rfl
  | error _ _ =>
    rw [hresult] at h
    cases h

theorem a_quarter_with_its_year_is_read_back : ∃ document,
    (leaves (uploadDocument march2026 (quarterlyReport "2026-Q1")) assignedQuarterly).documents.getLast? = some document ∧
      ReadsBack 2026 .quarterly "2026Q1" document.period document.year := by
  have hupload := upload_quarterlyReport "2026-Q1" (by decide +kernel)
  have hcycle : submittedCycle march2026 assignedQuarterly (quarterlyReport "2026-Q1") =
      some ⟨.assignment "Incident Report", "2026Q1"⟩ := by decide +kernel
  exact (stored_periods_are_read_back_iff hupload (by decide +kernel) hcycle (by decide) (fun hreport => absurd rfl hreport)).mpr
    ⟨"2026-Q1", rfl, by decide +kernel⟩

/-- A quarter without its year is filed among the other periods. -/
theorem a_bare_quarter_has_no_bucket : ¬ ∀ (s : Services) (db db' : DocumentDb) (dto : UploadDocumentDto)
    (frequency : SubmissionFrequency) (cycle : Cycle) (currentYear : Nat), uploadDocument s dto db = .ok () db' →
    submittedFrequency s db dto = some frequency → submittedCycle s db dto = some cycle → 1 ≤ s.month ∧ s.month ≤ 12 →
    (dto.reportId ≠ none → IsDocumented frequency dto.period) →
      ∃ document, db'.documents.getLast? = some document ∧
        ReadsBack currentYear frequency cycle.suffix document.period document.year := by
  intro h
  have hupload := upload_quarterlyReport "Q1" (by decide +kernel)
  have hcycle : submittedCycle march2026 assignedQuarterly (quarterlyReport "Q1") =
      some ⟨.assignment "Incident Report", "2026Q1"⟩ := by decide +kernel
  obtain ⟨document, hlast, period, hperiod, hreads⟩ :=
    h _ _ _ _ .quarterly _ 2026 hupload (by decide +kernel) hcycle (by decide) (fun hreport => absurd rfl hreport)
  have hstored : (leaves (uploadDocument march2026 (quarterlyReport "Q1")) assignedQuarterly).documents.getLast?.map
      (fun document => (parsePeriodBucket document.period).sortOrder) = some 998 := by decide +kernel
  rw [hlast] at hstored
  exact sortOrder_suffixPeriod hperiod (hreads.sortOrder.symm.trans (Option.some.inj hstored))

end ComplianceHub.Documents
