import Mathlib.Data.List.Basic

/-!
# Replacing the matches of expressions

An expression takes as many characters as it can at each place where it may go on. Its matches in a text are replaced
from left to right.

* `done`, `one`, `plus`, `upTo`, `times` : expressions; `StopsAt` : one of them never stops before certain characters;
* `replaceFrom` : the replacement, over anything that has a character, with the character before the text;
* `Stays` : what became of the two sides of a part that a replacement left as it is; `exists_stays` : a part of the result
  that has nothing inserted in it was there before;
* `Step`, `run` : replacements one after the other; `StaysThrough` : the same over all of them.
-/

namespace ComplianceHub.Lib.Replacement

/-! ## Expressions -/

section
variable {β : Type}

/-- The length of what is matched at the start of a text. -/
abbrev Matcher (β : Type) := List β → Option Nat

def done : Matcher β := fun _ => some 0

def one (p : β → Bool) (next : Matcher β) : Matcher β
  | [] => none
  | c :: rest => if p c then (next rest).map (· + 1) else none

/-- `p+`, then `next`. -/
def plus (p : β → Bool) (next : Matcher β) : Matcher β
  | [] => none
  | c :: rest => if p c then ((plus p next rest).or (next rest)).map (· + 1) else none

/-- `p{0,n}`, then `next`. -/
def upTo (p : β → Bool) (next : Matcher β) : Nat → Matcher β
  | 0 => next
  | n + 1 => fun text => (one p (upTo p next n) text).or (next text)

/-- `p{n}`, then `next`. -/
def times (p : β → Bool) (next : Matcher β) : Nat → Matcher β
  | 0 => next
  | n + 1 => one p (times p next n)

variable {p q : β → Bool} {m next : Matcher β} {c : β} {rest : List β} {n : Nat}

theorem one_eq_some : one p next (c :: rest) = some n ↔ p c = true ∧ ∃ k, next rest = some k ∧ k + 1 = n := by
  simp [one]

theorem plus_eq_some : plus p next (c :: rest) = some n ↔
    p c = true ∧ ∃ k, (plus p next rest = some k ∨ plus p next rest = none ∧ next rest = some k) ∧ k + 1 = n := by
  simp [plus, Option.or_eq_some_iff]

/-- What `p+` matches further on it matches from an earlier character too. -/
theorem plus_cons (hc : p c = true) (h : plus p next rest = some n) : plus p next (c :: rest) = some (n + 1) :=
  plus_eq_some.mpr ⟨hc, n, .inl h, rfl⟩

/-- A match never ends before such a character. -/
def StopsAt (q : β → Bool) (m : Matcher β) : Prop := ∀ text n c, m text = some n → text[n]? = some c → q c = false

theorem stopsAt_one (h : StopsAt q next) : StopsAt q (one p next)
  | [], _, _, hmatch, _ => by simp [one] at hmatch
  | _ :: rest, _, c, hmatch, hc => by
    obtain ⟨-, k, hk, rfl⟩ := one_eq_some.mp hmatch
    exact h rest k c hk hc

theorem stopsAt_plus (h : StopsAt q next) : StopsAt q (plus p next)
  | [], _, _, hmatch, _ => by simp [plus] at hmatch
  | _ :: rest, _, c, hmatch, hc => by
    obtain ⟨-, k, hk, rfl⟩ := plus_eq_some.mp hmatch
    rcases hk with hk | ⟨-, hk⟩
    · exact stopsAt_plus h rest k c hk hc
    · exact h rest k c hk hc

/-- At the end of an expression, `p+` takes every character that it can. -/
theorem stopsAt_plus_done : StopsAt p (plus p done)
  | [], _, _, hmatch, _ => by simp [plus] at hmatch
  | _ :: rest, _, c, hmatch, hc => by
    obtain ⟨-, k, hk, rfl⟩ := plus_eq_some.mp hmatch
    rcases hk with hk | ⟨hnone, hk⟩
    · exact stopsAt_plus_done rest k c hk hc
    · obtain rfl : 0 = k := Option.some.inj hk
      cases rest with
      | nil => simp at hc
      | cons d rest =>
        obtain rfl : d = c := by simpa using hc
        by_contra hp
        simp [plus, done, hp] at hnone

/-- After a character with `q`, the last one matched has it. -/
def EndsWith (q : β → Bool) (m : Matcher β) : Prop :=
  ∀ c text n d, q c = true → m text = some n → (c :: text)[n]? = some d → q d = true

theorem endsWith_done : EndsWith q done := by
  intro c text n d hc hmatch hd
  obtain rfl : 0 = n := Option.some.inj hmatch
  obtain rfl : c = d := by simpa using hd
  exact hc

theorem endsWith_one (hpq : ∀ c, p c = true → q c = true) (h : EndsWith q next) : EndsWith q (one p next) := by
  intro c text n d _ hmatch hd
  cases text with
  | nil => simp [one] at hmatch
  | cons e rest =>
    obtain ⟨he, k, hk, rfl⟩ := one_eq_some.mp hmatch
    exact h e rest k d (hpq e he) hk hd

/-- The first character is one of those, so that the last one is. -/
theorem endsWith_one_first (hpq : ∀ c, p c = true → q c = true) (h : EndsWith q next) {text : List β} {d : β}
    (hmatch : one p next text = some (n + 1)) (hd : text[n]? = some d) : q d = true := by
  cases text with
  | nil => simp [one] at hmatch
  | cons e rest =>
    obtain ⟨he, k, hk, hn⟩ := one_eq_some.mp hmatch
    obtain rfl : k = n := Nat.succ.inj hn
    exact h e rest k d (hpq e he) hk hd

theorem endsWith_upTo (hpq : ∀ c, p c = true → q c = true) (h : EndsWith q next) : ∀ n, EndsWith q (upTo p next n)
  | 0 => h
  | n + 1 => by
    intro c text k d hc hmatch hd
    rcases Option.or_eq_some_iff.mp hmatch with hk | ⟨-, hk⟩
    · exact endsWith_one hpq (endsWith_upTo hpq h n) c text k d hc hk hd
    · exact h c text k d hc hk hd

theorem endsWith_times (hpq : ∀ c, p c = true → q c = true) (h : EndsWith q next) : ∀ n, EndsWith q (times p next n)
  | 0 => h
  | n + 1 => endsWith_one hpq (endsWith_times hpq h n)

end

/-! ## One replacement -/

section
variable {α β : Type} (ch : α → β)

/-- What an expression matches after a character, if there is one. -/
abbrev Pattern (β : Type) := Option β → Matcher β

/-- Every match replaced; `skip` characters of the last one are still to come. No match is empty. -/
def replaceFrom (pattern : Pattern β) (inserted : List α) : Option β → Nat → List α → List α
  | _, _, [] => []
  | _, skip + 1, a :: rest => replaceFrom pattern inserted (some (ch a)) skip rest
  | before, 0, a :: rest =>
    match pattern before (ch a :: rest.map ch) with
    | some (n + 1) => inserted ++ replaceFrom pattern inserted (some (ch a)) n rest
    | _ => a :: replaceFrom pattern inserted (some (ch a)) 0 rest

/-- The character before what follows a text. -/
def endOf (before : Option β) : List α → Option β
  | [] => before
  | a :: rest => endOf (some (ch a)) rest

variable {ch} {pattern : Pattern β} {inserted : List α} {before : Option β} {a : α} {rest l l' : List α} {n : Nat}

theorem endOf_append : endOf ch before (l ++ l') = endOf ch (endOf ch before l) l' := by
  induction l generalizing before with
  | nil => rfl
  | cons a rest ih => exact ih

theorem endOf_concat : endOf ch before (l ++ [a]) = some (ch a) := endOf_append

theorem replaceFrom_skip : replaceFrom ch pattern inserted before n l =
    replaceFrom ch pattern inserted (endOf ch before (l.take n)) 0 (l.drop n) := by
  induction n generalizing before l with
  | zero => rfl
  | succ n ih =>
    cases l with
    | nil => rfl
    | cons a rest => exact ih

theorem replaceFrom_of_match (h : pattern before ((a :: rest).map ch) = some (n + 1)) :
    replaceFrom ch pattern inserted before 0 (a :: rest) =
      inserted ++ replaceFrom ch pattern inserted (endOf ch before (a :: rest.take n)) 0 (rest.drop n) := by
  rw [List.map_cons] at h
  calc replaceFrom ch pattern inserted before 0 (a :: rest)
      = inserted ++ replaceFrom ch pattern inserted (some (ch a)) n rest := by rw [replaceFrom, h]
    _ = _ := by
      rw [replaceFrom_skip]
      rfl

theorem replaceFrom_of_unmatched (h : ∀ n, pattern before ((a :: rest).map ch) ≠ some (n + 1)) :
    replaceFrom ch pattern inserted before 0 (a :: rest) =
      a :: replaceFrom ch pattern inserted (some (ch a)) 0 rest := by
  rw [List.map_cons] at h
  rw [replaceFrom]
  split
  · rename_i n hmatch
    exact absurd hmatch (h n)
  · rfl

/-- A replacement sees the characters only. -/
theorem map_replaceFrom {γ : Type} (f : γ → α) {placeholder : List γ} {text : List γ} :
    (replaceFrom (ch ∘ f) pattern placeholder before n text).map f =
      replaceFrom ch pattern (placeholder.map f) before n (text.map f) := by
  induction text generalizing before n with
  | nil => rfl
  | cons a rest ih =>
    cases n with
    | succ n => exact ih
    | zero =>
      show _ = replaceFrom ch pattern (placeholder.map f) before 0 (f a :: rest.map f)
      unfold replaceFrom
      rw [List.map_map]
      show (match pattern before (ch (f a) :: rest.map (ch ∘ f)) with | some (n + 1) => _ | _ => _ : List γ).map f = _
      split
      · rw [List.map_append, ih]
        rfl
      · rw [List.map_cons, ih]
        rfl

variable (ch pattern) in
/-- Induction along a replacement. -/
@[elab_as_elim]
theorem replace_induction {motive : Option β → List α → Prop} (nil : ∀ before, motive before [])
    (unmatched : ∀ before a rest, (∀ n, pattern before ((a :: rest).map ch) ≠ some (n + 1)) →
      motive (some (ch a)) rest → motive before (a :: rest))
    (matched : ∀ before a rest n, pattern before ((a :: rest).map ch) = some (n + 1) →
      motive (endOf ch before (a :: rest.take n)) (rest.drop n) → motive before (a :: rest)) :
    ∀ (length : Nat) (before : Option β) (l : List α), l.length ≤ length → motive before l
  | _, before, [], _ => nil before
  | length + 1, before, a :: rest, hlength => by
    have hrest : rest.length ≤ length := Nat.le_of_succ_le_succ hlength
    by_cases hmatch : ∃ n, pattern before ((a :: rest).map ch) = some (n + 1)
    · obtain ⟨n, hn⟩ := hmatch
      refine matched before a rest n hn (replace_induction nil unmatched matched length _ _ ?_)
      rw [List.length_drop]
      exact Nat.le_trans (Nat.sub_le ..) hrest
    · exact unmatched before a rest (not_exists.mp hmatch)
        (replace_induction nil unmatched matched length _ rest hrest)

/-! ## What stays -/

/-- What is inserted begins and ends with a character that shows it. -/
structure Fenced (fence : α → Prop) (inserted : List α) : Prop where
  first : ∃ a rest, inserted = a :: rest ∧ fence a
  last : ∃ init a, inserted = init ++ [a] ∧ fence a

/-- A part of a text with no such character. -/
def Clear (fence : α → Prop) (part : List α) : Prop := ∀ a ∈ part, ¬ fence a

/-- Between `left` and `right` a part stays, and `left'` and `right'` are made of the sides. -/
structure Stays (ch : α → β) (fence : α → Prop) (pattern : Pattern β) (inserted : List α) (before : Option β)
    (part left right left' right' : List α) : Prop where
  /-- No match begins in the part. -/
  unmatched : ∀ init a rest, part = init ++ a :: rest →
    ∀ n, pattern (endOf ch before (left ++ init)) ((a :: rest ++ right).map ch) ≠ some (n + 1)
  right_eq : right' = replaceFrom ch pattern inserted (endOf ch before (left ++ part)) 0 right
  left_nil : left = [] → left' = []
  left_eq : Clear fence left' → left' = left
  left_suffix : ∀ w, Clear fence w → w <:+ left' → w <:+ left
  /-- If the character before the part does not stay, then a match ends there. -/
  left_last : left'.getLast? = left.getLast? ∨ ∃ b init block, left = init ++ block ∧ block ≠ [] ∧
    pattern b ((block ++ part ++ right).map ch) = some block.length

variable {fence : α → Prop} {part left right left' right' : List α}

theorem Stays.alone (h : ∀ n, pattern before ((a :: rest).map ch) ≠ some (n + 1)) :
    Stays ch fence pattern inserted before [a] [] rest [] (replaceFrom ch pattern inserted (some (ch a)) 0 rest) where
  unmatched := by
    intro init a' rest' hpart
    obtain ⟨rfl, rfl, rfl⟩ : init = [] ∧ a' = a ∧ rest' = [] := by
      cases init <;> simp_all
    exact h
  right_eq := rfl
  left_nil _ := rfl
  left_eq _ := rfl
  left_suffix _ _ h := h
  left_last := .inl rfl

/-- The part begins with a character that is left as it is. -/
theorem Stays.cons_part (hs : Stays ch fence pattern inserted (some (ch a)) part [] right [] right')
    (h : ∀ n, pattern before ((a :: part ++ right).map ch) ≠ some (n + 1)) :
    Stays ch fence pattern inserted before (a :: part) [] right [] right' where
  unmatched := by
    intro init a' rest' hpart
    cases init with
    | nil =>
      obtain ⟨rfl, rfl⟩ := List.cons.inj hpart
      exact h
    | cons b init =>
      obtain ⟨rfl, hrest⟩ := List.cons.inj hpart
      exact hs.unmatched init a' rest' hrest
  right_eq := hs.right_eq
  left_nil _ := rfl
  left_eq _ := rfl
  left_suffix _ _ h := h
  left_last := .inl rfl

theorem Stays.cons_left (hs : Stays ch fence pattern inserted (some (ch a)) part left right left' right') :
    Stays ch fence pattern inserted before part (a :: left) right (a :: left') right' where
  unmatched := hs.unmatched
  right_eq := hs.right_eq
  left_nil h := by simp at h
  left_eq h := congrArg (a :: ·) (hs.left_eq fun b hb => h b (List.mem_cons_of_mem a hb))
  left_suffix w hw hsuffix := by
    rcases List.suffix_cons_iff.mp hsuffix with rfl | hsuffix
    · obtain rfl : left' = left := hs.left_eq fun b hb => hw b (List.mem_cons_of_mem a hb)
      exact List.suffix_refl _
    · exact (hs.left_suffix w hw hsuffix).trans (List.suffix_cons a left)
  left_last := by
    rcases hs.left_last with hsame | ⟨b, init, block, rfl, hblock⟩
    · rw [List.getLast?_cons, List.getLast?_cons, hsame]
      exact .inl rfl
    · exact .inr ⟨b, a :: init, block, rfl, hblock⟩

theorem Stays.append_left (hfenced : Fenced fence inserted) {block : List α} (hblock : block ≠ [])
    (hmatch : pattern before ((block ++ (left ++ part ++ right)).map ch) = some block.length)
    (hs : Stays ch fence pattern inserted (endOf ch before block) part left right left' right') :
    Stays ch fence pattern inserted before part (block ++ left) right (inserted ++ left') right' where
  unmatched init a rest hpart := by
    rw [List.append_assoc, endOf_append]
    exact hs.unmatched init a rest hpart
  right_eq := by
    rw [List.append_assoc, endOf_append]
    exact hs.right_eq
  left_nil h := absurd (List.append_eq_nil_iff.mp h).1 hblock
  left_eq h := by
    obtain ⟨a, rest, rfl, ha⟩ := hfenced.first
    exact absurd ha (h a List.mem_cons_self)
  left_suffix w hw hsuffix := by
    obtain ⟨init, a, rfl, ha⟩ := hfenced.last
    have hnot : a ∉ w := fun hmem => hw a hmem ha
    have hown : a :: left' <:+ init ++ [a] ++ left' := ⟨init, by simp⟩
    rcases List.suffix_or_suffix_of_suffix hsuffix hown with hshort | hlong
    · rcases List.suffix_cons_iff.mp hshort with rfl | hshort
      · exact absurd List.mem_cons_self hnot
      · exact (hs.left_suffix w hw hshort).trans (List.suffix_append block left)
    · exact absurd (hlong.mem List.mem_cons_self) hnot
  left_last := by
    by_cases hleft : left = []
    · subst hleft
      refine .inr ⟨before, [], block, List.append_nil block, hblock, ?_⟩
      rw [List.append_assoc]
      exact hmatch
    · rcases hs.left_last with hsame | ⟨b, init, own, rfl, hown⟩
      · rw [List.getLast?_append, List.getLast?_append, hsame, List.getLast?_eq_some_getLast hleft]
        exact .inl rfl
      · exact .inr ⟨b, block ++ init, own, (List.append_assoc ..).symm, hown⟩

/-- A part of the result that has nothing inserted in it stayed. -/
theorem exists_stays (hfenced : Fenced fence inserted) (before : Option β) (text : List α) :
    ∀ left' part right' : List α, replaceFrom ch pattern inserted before 0 text = left' ++ part ++ right' → part ≠ [] →
      (∀ a ∈ part, a ∉ inserted) → ∃ left right, text = left ++ part ++ right ∧
        Stays ch fence pattern inserted before part left right left' right' := by
  refine replace_induction ch pattern ?_ ?_ ?_ text.length before text (Nat.le_refl _)
  · intro before left' part right' h hne _
    have hnil : left' ++ part ++ right' = [] := h.symm
    simp [hne] at hnil
  · intro before a rest hunmatched ih left' part right' h hne hpart
    rw [replaceFrom_of_unmatched hunmatched] at h
    cases left' with
    | cons b left' =>
      obtain ⟨rfl, hrest⟩ := List.cons.inj h
      obtain ⟨left, right, rfl, hs⟩ := ih left' part right' hrest hne hpart
      exact ⟨a :: left, right, rfl, hs.cons_left⟩
    | nil =>
      obtain ⟨b, part, rfl⟩ := List.exists_cons_of_ne_nil hne
      obtain ⟨rfl, hrest⟩ := List.cons.inj h
      by_cases hlast : part = []
      · subst hlast
        obtain rfl : _ = right' := hrest
        exact ⟨[], rest, rfl, .alone hunmatched⟩
      · obtain ⟨left, right, rfl, hs⟩ := ih [] part right' hrest hlast fun b hb => hpart b (List.mem_cons_of_mem a hb)
        obtain rfl : [] = left := hs.left_eq fun b hb => by simp at hb
        exact ⟨[], right, rfl, hs.cons_part hunmatched⟩
  · intro before a rest n hmatch ih left' part right' h hne hpart
    rw [replaceFrom_of_match hmatch, List.append_assoc left'] at h
    obtain ⟨left'₂, rfl, hrest⟩ : ∃ left'₂, left' = inserted ++ left'₂ ∧
        replaceFrom ch pattern inserted (endOf ch before (a :: rest.take n)) 0 (rest.drop n) = left'₂ ++ (part ++ right') := by
      rcases List.append_eq_append_iff.mp h with hlong | ⟨own, hinserted, hown⟩
      · exact hlong
      · obtain ⟨b, part, rfl⟩ := List.exists_cons_of_ne_nil hne
        cases own with
        | nil => exact ⟨[], by simp [hinserted], hown.symm⟩
        | cons c own =>
          obtain ⟨rfl, -⟩ := List.cons.inj hown
          exact absurd (by simp [hinserted]) (hpart b List.mem_cons_self)
    rw [← List.append_assoc] at hrest
    obtain ⟨left, right, hdrop, hs⟩ := ih left'₂ part right' hrest hne hpart
    have hlength : n ≤ rest.length := by
      by_contra hlt
      rw [List.drop_eq_nil_of_le (Nat.le_of_not_le hlt)] at hdrop
      simp [hne] at hdrop
    have hblock : (a :: rest.take n) ++ (left ++ part ++ right) = a :: rest := by
      rw [← hdrop, List.cons_append, List.take_append_drop]
    refine ⟨a :: rest.take n ++ left, right, ?_, hs.append_left hfenced (by simp) ?_⟩
    · rw [← hblock]
      simp
    · rw [hblock, hmatch, List.length_cons, List.length_take, Nat.min_eq_left hlength]

/-- What the result begins with is what the text begins with, up to the first insertion. -/
theorem startsWith_of_replaceFrom (hfenced : Fenced fence inserted) (before : Option β) (text : List α) :
    ∀ w, Clear fence w → w <+: replaceFrom ch pattern inserted before 0 text → w <+: text := by
  refine replace_induction ch pattern ?_ ?_ ?_ text.length before text (Nat.le_refl _)
  · intro before w _ h
    exact h
  · intro before a rest hunmatched ih w hw h
    rw [replaceFrom_of_unmatched hunmatched] at h
    rcases List.prefix_cons_iff.mp h with rfl | ⟨w, rfl, hrest⟩
    · exact List.nil_prefix
    · exact List.prefix_cons_iff.mpr (.inr ⟨w, rfl, ih w (fun b hb => hw b (List.mem_cons_of_mem a hb)) hrest⟩)
  · intro before a rest n hmatch _ w hw h
    rw [replaceFrom_of_match hmatch] at h
    obtain ⟨b, own, rfl, hb⟩ := hfenced.first
    rcases List.prefix_cons_iff.mp h with rfl | ⟨w, rfl, -⟩
    · exact List.nil_prefix
    · exact absurd hb (hw b List.mem_cons_self)

/-! ## Replacements one after the other -/

structure Step (α β : Type) where
  pattern : Pattern β
  inserted : List α

def Step.replace (ch : α → β) (s : Step α β) (text : List α) : List α := replaceFrom ch s.pattern s.inserted none 0 text

def run (ch : α → β) (steps : List (Step α β)) (text : List α) : List α :=
  steps.foldl (fun text s => s.replace ch text) text

def Step.map {γ : Type} (f : γ → α) (s : Step γ β) : Step α β := { pattern := s.pattern, inserted := s.inserted.map f }

theorem map_run {γ : Type} (f : γ → α) (steps : List (Step γ β)) (text : List γ) :
    (run (ch ∘ f) steps text).map f = run ch (steps.map (Step.map f)) (text.map f) := by
  induction steps generalizing text with
  | nil => rfl
  | cons s steps ih =>
    show (run (ch ∘ f) steps (s.replace (ch ∘ f) text)).map f = run ch (steps.map _) ((s.map f).replace ch (text.map f))
    rw [ih]
    exact congrArg _ (map_replaceFrom f)

/-- `Stays` over all of the replacements. -/
inductive StaysThrough (ch : α → β) (fence : α → Prop) (part : List α) :
    List (Step α β) → List α → List α → List α → List α → Prop
  | nil {left right : List α} : StaysThrough ch fence part [] left right left right
  | cons {s : Step α β} {steps : List (Step α β)} {left right left₁ right₁ left' right' : List α} :
      Stays ch fence s.pattern s.inserted none part left right left₁ right₁ →
      StaysThrough ch fence part steps left₁ right₁ left' right' →
      StaysThrough ch fence part (s :: steps) left right left' right'

/-- What two sides show up to an insertion the others show too. -/
structure Shows (fence : α → Prop) (left right left₁ right₁ : List α) : Prop where
  onLeft : ∀ w, Clear fence w → w <:+ left₁ → w <:+ left
  onRight : ∀ w, Clear fence w → w <+: right₁ → w <+: right

theorem Shows.refl : Shows fence left right left right := ⟨fun _ _ h => h, fun _ _ h => h⟩

theorem Shows.trans {left₁ right₁ left₂ right₂ : List α} (h : Shows fence left right left₁ right₁)
    (h' : Shows fence left₁ right₁ left₂ right₂) : Shows fence left right left₂ right₂ :=
  ⟨fun w hw hleft => h.onLeft w hw (h'.onLeft w hw hleft), fun w hw hright => h.onRight w hw (h'.onRight w hw hright)⟩

theorem Stays.shows (hfenced : Fenced fence inserted)
    (h : Stays ch fence pattern inserted before part left right left' right') : Shows fence left right left' right' := by
  refine ⟨h.left_suffix, fun w hw hright => ?_⟩
  rw [h.right_eq] at hright
  exact startsWith_of_replaceFrom hfenced _ right w hw hright

variable {steps : List (Step α β)}

theorem exists_staysThrough (hfenced : ∀ s ∈ steps, Fenced fence s.inserted) (hne : part ≠ [])
    (hpart : ∀ s ∈ steps, ∀ a ∈ part, a ∉ s.inserted) {text : List α}
    (h : run ch steps text = left' ++ part ++ right') :
    ∃ left right, text = left ++ part ++ right ∧ StaysThrough ch fence part steps left right left' right' := by
  induction steps generalizing text with
  | nil => exact ⟨left', right', h, .nil⟩
  | cons s steps ih =>
    obtain ⟨left₁, right₁, htext, hlater⟩ := ih (fun s hs => hfenced s (List.mem_cons_of_mem _ hs))
      (fun s hs => hpart s (List.mem_cons_of_mem _ hs)) h
    obtain ⟨left, right, rfl, hstays⟩ := exists_stays (hfenced s List.mem_cons_self) none text left₁ part right₁ htext hne
      (hpart s List.mem_cons_self)
    exact ⟨left, right, rfl, .cons hstays hlater⟩

theorem StaysThrough.shows (hfenced : ∀ s ∈ steps, Fenced fence s.inserted)
    (h : StaysThrough ch fence part steps left right left' right') : Shows fence left right left' right' := by
  induction h with
  | nil => exact .refl
  | cons hstays _ ih =>
    exact (hstays.shows (hfenced _ List.mem_cons_self)).trans (ih fun s hs => hfenced s (List.mem_cons_of_mem _ hs))

/-- How the part stayed in one of the replacements. -/
theorem StaysThrough.of_mem (hfenced : ∀ s ∈ steps, Fenced fence s.inserted)
    (h : StaysThrough ch fence part steps left right left' right') {s : Step α β} (hs : s ∈ steps) :
    ∃ left₁ right₁ left₂ right₂, Shows fence left right left₁ right₁ ∧
      Stays ch fence s.pattern s.inserted none part left₁ right₁ left₂ right₂ := by
  induction h with
  | nil => simp at hs
  | cons hstays _ ih =>
    rcases List.mem_cons.mp hs with rfl | hs
    · exact ⟨_, _, _, _, .refl, hstays⟩
    · obtain ⟨left₁, right₁, left₂, right₂, hshows, hlater⟩ := ih (fun s hs => hfenced s (List.mem_cons_of_mem _ hs)) hs
      exact ⟨left₁, right₁, left₂, right₂, (hstays.shows (hfenced _ List.mem_cons_self)).trans hshows, hlater⟩

/-- The character after the part stays if no match begins there. -/
theorem StaysThrough.right_first (hfenced : ∀ s ∈ steps, Fenced fence s.inserted)
    (h : StaysThrough ch fence part steps left right left' right') {b : α} (hright : ∃ rest, right = b :: rest)
    (hunmatched : ∀ s ∈ steps, ∀ left₁ rest left₂ right₂, Shows fence left right left₁ (b :: rest) →
      Stays ch fence s.pattern s.inserted none part left₁ (b :: rest) left₂ right₂ →
        ∀ n, s.pattern (endOf ch none (left₁ ++ part)) ((b :: rest).map ch) ≠ some (n + 1)) :
    ∃ rest, right' = b :: rest := by
  induction h with
  | nil => exact hright
  | @cons s steps left right left₁ right₁ left' right' hstays _ ih =>
    obtain ⟨rest, rfl⟩ := hright
    have hshows := hstays.shows (hfenced s List.mem_cons_self)
    have hfirst : replaceFrom ch s.pattern s.inserted _ 0 (b :: rest) = _ :=
      replaceFrom_of_unmatched (hunmatched s List.mem_cons_self left rest left₁ right₁ .refl hstays)
    refine ih (fun s hs => hfenced s (List.mem_cons_of_mem _ hs)) ⟨_, hstays.right_eq.trans hfirst⟩ ?_
    intro t ht left₂ rest₂ left₃ right₃ hlater
    exact hunmatched t (List.mem_cons_of_mem s ht) left₂ rest₂ left₃ right₃ (hshows.trans hlater)

/-- The character before the part stays if no match ends there. -/
theorem StaysThrough.left_last (hfenced : ∀ s ∈ steps, Fenced fence s.inserted)
    (h : StaysThrough ch fence part steps left right left' right') {b : α} (hleft : left.getLast? = some b)
    (hunmatched : ∀ s ∈ steps, ∀ init block right₁ c, Shows fence left right (init ++ block) right₁ →
      block.getLast? = some b → s.pattern c ((block ++ part ++ right₁).map ch) ≠ some block.length) :
    left'.getLast? = some b := by
  induction h with
  | nil => exact hleft
  | @cons s steps left right left₁ right₁ left' right' hstays _ ih =>
    have hshows := hstays.shows (hfenced s List.mem_cons_self)
    refine ih (fun s hs => hfenced s (List.mem_cons_of_mem _ hs)) ?_ ?_
    · rcases hstays.left_last with hsame | ⟨c, init, block, rfl, hne, hmatch⟩
      · rw [hsame, hleft]
      · have hblock : block.getLast? = some b := by
          rw [List.getLast?_append, List.getLast?_eq_some_getLast hne] at hleft
          rw [List.getLast?_eq_some_getLast hne]
          exact hleft
        exact absurd hmatch (hunmatched s List.mem_cons_self init block right c .refl hblock)
    · intro t ht init block right₂ c hlater
      exact hunmatched t (List.mem_cons_of_mem s ht) init block right₂ c (hshows.trans hlater)

end

end ComplianceHub.Lib.Replacement
