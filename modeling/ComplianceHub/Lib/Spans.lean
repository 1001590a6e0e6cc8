import Mathlib.Data.List.Basic

/-!
# Words of a pattern in a text

* `part text a b` : the part of a text from one index to another;
* `Occurs P text a b` : a word of a pattern stands there; `MaximalAt` : and in no longer word;
* `Uncut`, `Nested` : no word goes across an index, and no two words overlap; `MaximalAt.of_part` : a maximal word of a part
  that cuts no word is one of the text;
* `Reads` : a function that takes the longest word from the front of a text;
* `firstMatch` : the first place where a function gives a result; `scan` : the words that are met from the left, each behind
  the one before (`scan_maximal`).
-/

namespace ComplianceHub.Lib

variable {α β : Type}

/-! ## Parts -/

def part (text : List α) (a b : Nat) : List α := (text.take b).drop a

theorem length_part {text : List α} {a b : Nat} (h : b ≤ text.length) : (part text a b).length = b - a := by
  rw [part, List.length_drop, List.length_take, Nat.min_eq_left h]

theorem part_eq_take_drop (text : List α) (a b : Nat) : part text a b = (text.drop a).take (b - a) := by
  rw [part, List.drop_take]

theorem part_part (text : List α) {s e a b : Nat} (h : s + b ≤ e) : part (part text s e) a b = part text (s + a) (s + b) := by
  simp only [part_eq_take_drop, List.drop_take, List.drop_drop, List.take_take]
  congr 1
  omega

theorem drop_part (text : List α) (s e i : Nat) : (part text s e).drop i = part text (s + i) e := by
  rw [part, part, List.drop_drop]

theorem part_append (text : List α) {i j k : Nat} (hij : i ≤ j) (hjk : j ≤ k) :
    part text i k = part text i j ++ part text j k := by
  simp only [part_eq_take_drop]
  rw [show k - i = j - i + (k - j) by omega, List.take_add, List.drop_drop, show i + (j - i) = j by omega]

theorem getElem?_part {text : List α} {a b i : Nat} (hi : a + i < b) : (part text a b)[i]? = text[a + i]? := by
  rw [part, List.getElem?_drop, List.getElem?_take, if_pos hi]

/-! ## Words of a pattern -/

structure Occurs (P : List α → Prop) (text : List α) (a b : Nat) : Prop where
  le : a ≤ b
  bound : b ≤ text.length
  word : P (part text a b)

/-- A word that is in no longer one. -/
structure MaximalAt (P : List α → Prop) (text : List α) (a b : Nat) : Prop extends Occurs P text a b where
  longest : ∀ c d, Occurs P text c d → c ≤ a → b ≤ d → c = a ∧ d = b

/-- No word goes across an index. -/
def Uncut (P : List α → Prop) (text : List α) (k : Nat) : Prop := ∀ a b, Occurs P text a b → ¬ (a < k ∧ k < b)

/-- Words that overlap are one in the other. -/
def Nested (P : List α → Prop) (text : List α) : Prop :=
  ∀ a b c d, Occurs P text a b → Occurs P text c d → ¬ (a < c ∧ c < b ∧ b < d)

section
variable {P : List α → Prop} {text : List α} {a b s e : Nat}

theorem occurs_part (he : e ≤ text.length) (hs : s ≤ e) :
    Occurs P (part text s e) a b ↔ Occurs P text (s + a) (s + b) ∧ s + b ≤ e := by
  constructor
  · intro h
    have hbound := h.bound
    rw [length_part he] at hbound
    have hb : s + b ≤ e := by omega
    refine ⟨⟨by have := h.le; omega, Nat.le_trans hb he, ?_⟩, hb⟩
    rw [← part_part text hb]
    exact h.word
  · rintro ⟨h, hb⟩
    refine ⟨by have := h.le; omega, by rw [length_part he]; omega, ?_⟩
    rw [part_part text hb]
    exact h.word

/-- A maximal word of a part that cuts no word at its ends. -/
theorem MaximalAt.of_part (h : MaximalAt P (part text s e) a b) (hab : a < b) (he : e ≤ text.length) (hs : s ≤ e)
    (hstart : Uncut P text s) (hend : Uncut P text e) : MaximalAt P text (s + a) (s + b) := by
  obtain ⟨hword, hb⟩ := (occurs_part he hs).mp h.toOccurs
  refine ⟨hword, fun c d hcd hc hd => ?_⟩
  have hsc : s ≤ c := by
    by_contra hlt
    exact hstart c d hcd ⟨by omega, by omega⟩
  have hde : d ≤ e := by
    by_contra hlt
    exact hend c d hcd ⟨by omega, by omega⟩
  obtain ⟨c, rfl⟩ := Nat.exists_eq_add_of_le hsc
  obtain ⟨d, rfl⟩ := Nat.exists_eq_add_of_le (Nat.le_trans hsc hcd.le)
  obtain ⟨rfl, rfl⟩ := h.longest c d ((occurs_part he hs).mpr ⟨hcd, hde⟩) (by omega) (by omega)
  exact ⟨rfl, rfl⟩

theorem MaximalAt.end_unique {b' : Nat} (h : MaximalAt P text a b) (h' : MaximalAt P text a b') : b = b' := by
  rcases Nat.le_total b b' with hle | hle
  · exact (h.longest a b' h'.toOccurs (Nat.le_refl _) hle).2.symm
  · exact (h'.longest a b h.toOccurs (Nat.le_refl _) hle).2

end

/-! ## Reading from the front -/

/-- The longest word at the front of a text is taken, if there is one. -/
structure Reads (P : List α → Prop) (read : List α → Option Nat) : Prop where
  word : ∀ rest n, read rest = some n → 0 < n ∧ n ≤ rest.length ∧ P (rest.take n)
  longest : ∀ rest m, m ≤ rest.length → P (rest.take m) → ∃ n, read rest = some n ∧ m ≤ n

section
variable {P : List α → Prop} {read : List α → Option Nat} {text : List α} {a b n : Nat}

theorem Reads.occurs (h : Reads P read) (hread : read (text.drop a) = some n) : Occurs P text a (a + n) := by
  obtain ⟨hpos, hle, hword⟩ := h.word _ _ hread
  rw [List.length_drop] at hle
  refine ⟨by omega, by omega, ?_⟩
  rw [part_eq_take_drop, Nat.add_sub_cancel_left]
  exact hword

theorem Reads.reaches (h : Reads P read) (hword : Occurs P text a b) : ∃ n, read (text.drop a) = some n ∧ b ≤ a + n := by
  have hpart := hword.word
  rw [part_eq_take_drop] at hpart
  have hle := hword.le
  have hbound := hword.bound
  obtain ⟨n, hread, hn⟩ := h.longest _ (b - a) (by rw [List.length_drop]; omega) hpart
  exact ⟨n, hread, by omega⟩

end

/-! ## Searching -/

/-- The first place where a function gives a result. -/
def firstMatch (f : List α → Option β) : Nat → List α → Option (Nat × β)
  | i, [] => (f []).map (i, ·)
  | i, x :: rest =>
    match f (x :: rest) with
    | some found => some (i, found)
    | none => firstMatch f (i + 1) rest

theorem firstMatch_eq_some {f : List α → Option β} {text : List α} {i j : Nat} {found : β}
    (h : firstMatch f i text = some (j, found)) :
    ∃ k, j = i + k ∧ k ≤ text.length ∧ f (text.drop k) = some found := by
  induction text generalizing i with
  | nil =>
    obtain ⟨other, hother, h⟩ := Option.map_eq_some_iff.mp h
    cases h
    exact ⟨0, rfl, Nat.le_refl _, hother⟩
  | cons x rest ih =>
    rw [firstMatch] at h
    split at h
    · rename_i other hother
      cases h
      exact ⟨0, rfl, Nat.zero_le _, hother⟩
    · obtain ⟨k, rfl, hk, hfound⟩ := ih h
      exact ⟨k + 1, by omega, by simpa using hk, hfound⟩

theorem firstMatch_of_first {f : List α → Option β} {text : List α} {k : Nat} {found : β} (hk : k ≤ text.length)
    (hfound : f (text.drop k) = some found) (hfirst : ∀ j < k, f (text.drop j) = none) (i : Nat) :
    firstMatch f i text = some (i + k, found) := by
  induction text generalizing i k with
  | nil =>
    obtain rfl : k = 0 := Nat.le_zero.mp hk
    rw [firstMatch, show f [] = some found from hfound]
    rfl
  | cons x rest ih =>
    rw [firstMatch]
    cases k with
    | zero =>
      rw [show f (x :: rest) = some found from hfound]
      rfl
    | succ k =>
      rw [show f (x :: rest) = none from hfirst 0 (by omega)]
      have hrest := ih (by simpa using hk) hfound (fun j hj => hfirst (j + 1) (by omega)) (i + 1)
      rw [show i + (k + 1) = i + 1 + k by omega]
      exact hrest

/-- The words that are met from the left, with where each starts; some of the text may be left out first. -/
def scan (read : List α → Option Nat) : Nat → Nat → List α → List (Nat × Nat)
  | _, _, [] => []
  | i, skip + 1, _ :: rest => scan read (i + 1) skip rest
  | i, 0, x :: rest =>
    match read (x :: rest) with
    | some n => (i, n) :: scan read (i + 1) (n - 1) rest
    | none => scan read (i + 1) 0 rest

section
variable {P : List α → Prop} {read : List α → Option Nat} {text : List α} {i skip p n : Nat}

theorem scan_reads (h : (p, n) ∈ scan read i skip (text.drop i)) : i + skip ≤ p ∧ read (text.drop p) = some n := by
  generalize hrest : text.drop i = rest at h
  induction rest generalizing i skip with
  | nil => cases h
  | cons x rest ih =>
    have htail : text.drop (i + 1) = rest := by rw [← List.drop_drop, hrest]; rfl
    cases skip with
    | succ skip =>
      have hlater := ih htail h
      exact ⟨by omega, hlater.2⟩
    | zero =>
      rw [scan] at h
      split at h
      · rename_i m hm
        rcases List.mem_cons.mp h with h | h
        · cases h
          exact ⟨Nat.le_refl _, hrest ▸ hm⟩
        · have hlater := ih htail h
          exact ⟨by omega, hlater.2⟩
      · have hlater := ih htail h
        exact ⟨by omega, hlater.2⟩

/-- A word that starts before one that is met, starts in another that has been met. -/
theorem scan_before (hP : Reads P read) (h : (p, n) ∈ scan read i skip (text.drop i)) {a : Nat} (ha : i + skip ≤ a) (hap : a < p)
    (hread : read (text.drop a) ≠ none) : ∃ q m, read (text.drop q) = some m ∧ q ≤ a ∧ a < q + m ∧ q + m ≤ p := by
  generalize hrest : text.drop i = rest at h
  induction rest generalizing i skip with
  | nil => cases h
  | cons x rest ih =>
    have htail : text.drop (i + 1) = rest := by rw [← List.drop_drop, hrest]; rfl
    cases skip with
    | succ skip => exact ih (by omega) htail h
    | zero =>
      rw [scan] at h
      split at h
      · rename_i m hm
        rcases List.mem_cons.mp h with h | h
        · cases h
          omega
        · rw [← htail] at h
          have hlater := (scan_reads h).1
          have hpos := (hP.word _ _ hm).1
          by_cases hin : a < i + m
          · exact ⟨i, m, hrest ▸ hm, by omega, hin, by omega⟩
          · exact ih (by omega) htail (htail ▸ h)
      · rename_i hnone
        refine ih ?_ htail h
        have hne : a ≠ i := by
          rintro rfl
          exact hread (hrest ▸ hnone)
        omega

/-- Where words that overlap are one in the other, the words that are met are maximal. -/
theorem scan_maximal (hP : Reads P read) (hnested : Nested P text) (h : (p, n) ∈ scan read 0 0 text) :
    MaximalAt P text p (p + n) := by
  have hmet : (p, n) ∈ scan read 0 0 (text.drop 0) := h
  have hread := (scan_reads hmet).2
  obtain ⟨hpos, -, -⟩ := hP.word _ _ hread
  refine ⟨hP.occurs hread, fun c d hcd hc hd => ?_⟩
  obtain ⟨k, hk, hdk⟩ := hP.reaches hcd
  rcases Nat.lt_or_ge c p with hlt | hge
  · obtain ⟨q, m, hq, hqc, hcq, hqp⟩ := scan_before hP hmet (Nat.zero_le _) hlt (by rw [hk]; exact Option.some_ne_none _)
    rcases Nat.lt_or_ge q c with hqc' | hge
    · exact absurd ⟨hqc', hcq, by omega⟩ (hnested _ _ _ _ (hP.occurs hq) hcd)
    · obtain rfl : q = c := by omega
      rw [hq] at hk
      cases hk
      omega
  · obtain rfl : c = p := by omega
    rw [hread] at hk
    cases hk
    exact ⟨rfl, by omega⟩

end

end ComplianceHub.Lib
