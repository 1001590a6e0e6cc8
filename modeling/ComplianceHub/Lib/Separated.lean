import Mathlib.Data.List.Basic

/-!
# Rows of separated fields

* `strip` : a field without its outer blanks;
* `joinRow` : the fields of a row, each with a blank on either side, between separators;
* `cellsOf` : the row read back: split, stripped, and without the empty cells;
* `fill` : so many cells, the missing ones filled with a dash;
* `fill_cellsOf_joinRow` : the row that is read back is the row that was written exactly where no field has the separator
  in it, and after a blank field come only fields that read as a dash;
* `eq_of_tagged` : fields between tags are in the text, where the closing tag begins with what is in no field.
-/

namespace ComplianceHub.Lib

variable {α : Type}

def strip (isBlank : α → Bool) (field : List α) : List α :=
  ((field.dropWhile isBlank).reverse.dropWhile isBlank).reverse

def joinRow (sep pad : α) (fields : List (List α)) : List α :=
  (fields.flatMap fun field => sep :: pad :: field ++ [pad]) ++ [sep]

def cellsOf [DecidableEq α] (sep : α) (isBlank : α → Bool) (row : List α) : List (List α) :=
  ((row.splitOn sep).map (strip isBlank)).filter (· ≠ [])

def fill {β : Type} (dash : β) (cells : List β) (width : Nat) : List β :=
  (List.range width).map fun i => cells[i]?.getD dash

/-- A field as it should read: the dash for an empty one. -/
def dashed {β : Type} [DecidableEq β] (dash : List β) (field : List β) : List β := if field = [] then dash else field

section
variable {isBlank : α → Bool}

theorem mem_of_mem_strip {c : α} {field : List α} (h : c ∈ strip isBlank field) : c ∈ field := by
  unfold strip at h
  rw [List.mem_reverse] at h
  exact (List.dropWhile_sublist _).subset (List.mem_reverse.mp ((List.dropWhile_sublist _).subset h))

theorem mem_dropWhile {c : α} {field : List α} (hc : isBlank c = false) (h : c ∈ field) :
    c ∈ field.dropWhile isBlank := by
  induction field with
  | nil => cases h
  | cons head rest ih =>
    rw [List.dropWhile_cons]
    split_ifs with hblank
    · apply ih
      rcases List.mem_cons.mp h with rfl | hrest
      · rw [hc] at hblank
        cases hblank
      · exact hrest
    · exact h

theorem mem_strip {c : α} {field : List α} (hc : isBlank c = false) (h : c ∈ field) : c ∈ strip isBlank field := by
  unfold strip
  rw [List.mem_reverse]
  exact mem_dropWhile hc (List.mem_reverse.mpr (mem_dropWhile hc h))

theorem dropWhile_append_blank {c : α} (hc : isBlank c = true) (field : List α) :
    ((field ++ [c]).dropWhile isBlank).reverse.dropWhile isBlank =
      (field.dropWhile isBlank).reverse.dropWhile isBlank := by
  induction field with
  | nil => simp [hc]
  | cons head rest ih =>
    rw [List.cons_append, List.dropWhile_cons, List.dropWhile_cons]
    split_ifs with hblank
    · exact ih
    · rw [← List.cons_append, List.reverse_append, List.reverse_singleton, List.singleton_append,
        List.dropWhile_cons_of_pos hc]

/-- A blank on either side does not count. -/
theorem strip_padded {pad : α} (hpad : isBlank pad = true) (field : List α) :
    strip isBlank (pad :: field ++ [pad]) = strip isBlank field := by
  unfold strip
  rw [List.cons_append, List.dropWhile_cons_of_pos hpad, dropWhile_append_blank hpad]

@[simp] theorem strip_nil : strip isBlank ([] : List α) = [] := rfl

end

/-! ## Cells of a row -/

section
variable {β : Type} {dash : β} {cells : List β} {width : Nat}

@[simp] theorem fill_cons (cell : β) : fill dash (cell :: cells) (width + 1) = cell :: fill dash cells width := by
  unfold fill
  rw [List.range_succ_eq_map, List.map_cons, List.map_map]
  rfl

theorem fill_replicate (n : Nat) : fill dash (List.replicate n dash) width = List.replicate width dash := by
  unfold fill
  rw [← List.length_range (n := width), ← List.map_const', List.length_range]
  apply List.map_congr_left
  intro i _
  rw [List.getElem?_replicate]
  split_ifs <;> rfl

end

section
variable [DecidableEq α] {dash : List α}

/-- A field that reads as a dash is empty or a dash. -/
theorem dashed_eq_dash {field : List α} : dashed dash field = dash ↔ field = [] ∨ field = dash := by
  unfold dashed
  split_ifs with h <;> simp [h]

/-- The cells that are not empty, after some of the dashes that have been read. -/
theorem dashes_of_fill_filter {fields : List (List α)} {n k : Nat} (hlt : n < k)
    (h : fill dash (List.replicate n dash ++ fields.filter (· ≠ [])) (k + fields.length) =
      List.replicate k dash ++ fields.map (dashed dash)) : ∀ field ∈ fields, dashed dash field = dash := by
  induction fields generalizing n k with
  | nil =>
    intro field hfield
    cases hfield
  | cons field rest ih =>
    have hhead : dashed dash field = dash := by
      by_cases hempty : field = []
      · rw [hempty]
        rfl
      · have hread := congrArg (·[n]?) h
        have hbelow : n < k + (rest.length + 1) := by omega
        simp [fill, hempty, hbelow, hlt] at hread
        rw [hread, dashed_eq_dash]
        exact .inr rfl
    have hrest : List.replicate k dash ++ (field :: rest).map (dashed dash) =
        List.replicate (k + 1) dash ++ rest.map (dashed dash) := by
      rw [List.map_cons, hhead, List.replicate_succ', List.append_assoc, List.singleton_append]
    have hlength : k + (field :: rest).length = k + 1 + rest.length := by
      rw [List.length_cons]
      omega
    rw [hrest, hlength] at h
    intro other hother
    rcases List.mem_cons.mp hother with rfl | hother
    · exact hhead
    · by_cases hempty : field = []
      · rw [List.filter_cons_of_neg (by simp [hempty])] at h
        exact ih (by omega) h other hother
      · have hdash : field = dash := by
          rcases dashed_eq_dash.mp hhead with h | h
          · exact absurd h hempty
          · exact h
        rw [List.filter_cons_of_pos (by simp [hempty]), hdash, ← List.singleton_append, ← List.append_assoc,
          ← List.replicate_succ'] at h
        exact ih (by omega) h other hother

/-- Without its empty cells a row reads right exactly where only dashes come after an empty cell. -/
theorem fill_filter_eq_iff (fields : List (List α)) :
    fill dash (fields.filter (· ≠ [])) fields.length = fields.map (dashed dash) ↔
      fields.Pairwise fun before after => before = [] → dashed dash after = dash := by
  induction fields with
  | nil => simp [fill]
  | cons field rest ih =>
    rw [List.pairwise_cons, List.length_cons, List.map_cons]
    by_cases hempty : field = []
    · rw [List.filter_cons_of_neg (by simp [hempty]), hempty]
      constructor
      · intro h
        have hdashes : ∀ after ∈ rest, dashed dash after = dash := by
          refine dashes_of_fill_filter (n := 0) Nat.one_pos (k := 1) ?_
          rw [List.replicate_zero, List.nil_append, Nat.add_comm]
          exact h
        refine ⟨fun after hafter _ => hdashes after hafter, ?_⟩
        apply List.Pairwise.imp_of_mem (R := fun _ _ => True)
        · intro _ after _ hafter _ _
          exact hdashes after hafter
        · exact List.pairwise_of_forall fun _ _ => trivial
      · intro h
        have hdashes : ∀ after ∈ rest, dashed dash after = dash := fun after hafter => h.1 after hafter rfl
        have hcells : rest.filter (· ≠ []) = List.replicate (rest.filter (· ≠ [])).length dash := by
          apply List.eq_replicate_of_mem
          intro after hafter
          obtain ⟨hafter, hne⟩ := List.mem_filter.mp hafter
          rcases dashed_eq_dash.mp (hdashes after hafter) with h | h
          · simp [h] at hne
          · exact h
        rw [hcells, fill_replicate, List.replicate_succ]
        congr 1
        rw [List.map_eq_replicate_iff.mpr hdashes]
    · have hfield : dashed dash field = field := if_neg hempty
      rw [List.filter_cons_of_pos (by simp [hempty]), fill_cons, hfield, List.cons_inj_right, ih]
      exact ⟨fun h => ⟨fun _ _ h => absurd h hempty, h⟩, And.right⟩

end

/-! ## The row read back -/

section
variable {sep pad : α} {isBlank : α → Bool}

theorem joinRow_cons (field : List α) (fields : List (List α)) :
    joinRow sep pad (field :: fields) = sep :: (pad :: field ++ [pad]) ++ joinRow sep pad fields := by
  unfold joinRow
  simp

/-- A row begins with a separator. -/
theorem joinRow_eq_cons (fields : List (List α)) : ∃ rest, joinRow sep pad fields = sep :: rest := by
  cases fields with
  | nil => exact ⟨[], rfl⟩
  | cons field fields => exact ⟨_, joinRow_cons field fields⟩

variable [DecidableEq α]

theorem notMem_of_mem_splitOn {row part : List α} (h : part ∈ row.splitOn sep) : sep ∉ part := by
  induction row generalizing part with
  | nil =>
    simp at h
    simp [h]
  | cons c row ih =>
    rw [List.splitOn_cons_eq_if_modifyHead] at h
    split_ifs at h with hc
    · rcases List.mem_cons.mp h with rfl | h
      · simp
      · exact ih h
    · obtain ⟨head, rest, hsplit⟩ := List.exists_cons_of_ne_nil (List.splitOn_ne_nil sep row)
      rw [hsplit, List.modifyHead_cons] at h
      rw [hsplit] at ih
      rcases List.mem_cons.mp h with rfl | h
      · have hhead := ih List.mem_cons_self
        intro hmem
        rcases List.mem_cons.mp hmem with rfl | hmem
        · simp at hc
        · exact hhead hmem
      · exact ih (List.mem_cons_of_mem _ h)

theorem notMem_of_mem_cellsOf {row cell : List α} (h : cell ∈ cellsOf sep isBlank row) : sep ∉ cell := by
  unfold cellsOf at h
  obtain ⟨part, hpart, rfl⟩ := List.mem_map.mp (List.mem_filter.mp h).1
  intro hmem
  exact notMem_of_mem_splitOn hpart (mem_of_mem_strip hmem)

theorem splitOn_joinRow {fields : List (List α)} (hpad : pad ≠ sep) (h : ∀ field ∈ fields, sep ∉ field) :
    (joinRow sep pad fields).splitOn sep = [] :: fields.map (fun field => pad :: field ++ [pad]) ++ [[]] := by
  induction fields with
  | nil => simp [joinRow, List.splitOn_cons_eq_if_modifyHead]
  | cons field fields ih =>
    obtain ⟨rest, hrest⟩ : ∃ rest, joinRow sep pad fields = sep :: rest := joinRow_eq_cons fields
    have hfield : sep ∉ pad :: field ++ [pad] := by simp [h field List.mem_cons_self, hpad.symm]
    have hread := ih fun other hother => h other (List.mem_cons_of_mem _ hother)
    rw [joinRow_cons, hrest, List.cons_append, ← List.nil_append (sep :: _), List.splitOn_append_cons_self,
      List.splitOn_append_cons_self_of_not_mem hfield]
    rw [hrest, ← List.nil_append (sep :: rest), List.splitOn_append_cons_self] at hread
    simp only [List.splitOn_nil, List.cons_append, List.nil_append, List.cons_inj_right, List.map_cons] at hread ⊢
    exact hread

theorem cellsOf_joinRow {fields : List (List α)} (hpad : pad ≠ sep) (hblank : isBlank pad = true)
    (h : ∀ field ∈ fields, sep ∉ field) :
    cellsOf sep isBlank (joinRow sep pad fields) = (fields.map (strip isBlank)).filter (· ≠ []) := by
  have hparts : (fields.map fun field => pad :: field ++ [pad]).map (strip isBlank) = fields.map (strip isBlank) := by
    rw [List.map_map]
    exact List.map_congr_left fun field _ => strip_padded hblank field
  unfold cellsOf
  rw [splitOn_joinRow hpad h, List.map_append, List.map_cons, hparts]
  simp

/-- A row that is written and read back is the same row exactly where no field has a separator in it, and after a blank
field come only fields that read as a dash. -/
theorem fill_cellsOf_joinRow {dash : List α} (fields : List (List α)) (hpad : pad ≠ sep) (hblank : isBlank pad = true)
    (hsep : isBlank sep = false) (hdash : sep ∉ dash) :
    fill dash (cellsOf sep isBlank (joinRow sep pad fields)) fields.length =
        fields.map (fun field => dashed dash (strip isBlank field)) ↔
      (∀ field ∈ fields, sep ∉ field) ∧ fields.Pairwise fun before after =>
        strip isBlank before = [] → dashed dash (strip isBlank after) = dash := by
  have hmap : fields.map (fun field => dashed dash (strip isBlank field)) =
      (fields.map (strip isBlank)).map (dashed dash) := by
    rw [List.map_map]
    rfl
  have hread : (∀ field ∈ fields, sep ∉ field) →
      (fill dash (cellsOf sep isBlank (joinRow sep pad fields)) fields.length =
          fields.map (fun field => dashed dash (strip isBlank field)) ↔
        fields.Pairwise fun before after =>
          strip isBlank before = [] → dashed dash (strip isBlank after) = dash) := by
    intro h
    rw [cellsOf_joinRow hpad hblank h, hmap, ← List.length_map (strip isBlank), fill_filter_eq_iff, List.pairwise_map]
  constructor
  · intro h
    have hclean : ∀ field ∈ fields, sep ∉ field := by
      intro field hfield hmem
      -- the separator stays in the field as it should read, and no cell has one
      have hkept : sep ∈ dashed dash (strip isBlank field) := by
        have hstrip := mem_strip hsep hmem
        rw [dashed, if_neg (List.ne_nil_of_mem hstrip)]
        exact hstrip
      have hcell : dashed dash (strip isBlank field) ∈
          fill dash (cellsOf sep isBlank (joinRow sep pad fields)) fields.length := by
        rw [h]
        exact List.mem_map.mpr ⟨field, hfield, rfl⟩
      obtain ⟨i, -, hi⟩ := List.mem_map.mp hcell
      rw [← hi] at hkept
      cases hget : (cellsOf sep isBlank (joinRow sep pad fields))[i]? with
      | none =>
        rw [hget] at hkept
        exact hdash hkept
      | some cell =>
        rw [hget] at hkept
        exact notMem_of_mem_cellsOf (List.mem_of_getElem? hget) hkept
    exact ⟨hclean, (hread hclean).mp h⟩
  · rintro ⟨hclean, hpairs⟩
    exact (hread hclean).mpr hpairs

end

/-! ## Fields between tags -/

/-- What comes before the first mark, and what comes after it. -/
theorem append_mark_inj {mark : α} {before other after rest : List α} (hbefore : mark ∉ before) (hother : mark ∉ other)
    (h : before ++ mark :: after = other ++ mark :: rest) : before = other ∧ after = rest := by
  induction before generalizing other with
  | nil =>
    cases other with
    | nil => exact ⟨rfl, (List.cons.inj h).2⟩
    | cons c other =>
      rw [(List.cons.inj h).1] at hother
      exact absurd List.mem_cons_self hother
  | cons c before ih =>
    cases other with
    | nil =>
      rw [(List.cons.inj h).1] at hbefore
      exact absurd List.mem_cons_self hbefore
    | cons d other =>
      obtain ⟨hhead, htail⟩ := List.cons.inj h
      obtain ⟨hsame, hrest⟩ := ih (fun hm => hbefore (List.mem_cons_of_mem _ hm))
        (fun hm => hother (List.mem_cons_of_mem _ hm)) htail
      rw [hhead, hsame]
      exact ⟨rfl, hrest⟩

/-- The tags are `opening` and `mark :: closing`, and no text with the opening tag ends the row. -/
theorem eq_of_tagged {mark : α} {opening closing ending : List α} {fields others : List (List α)}
    (hfields : ∀ field ∈ fields, mark ∉ field) (hothers : ∀ other ∈ others, mark ∉ other)
    (hending : ∀ rest, opening ++ rest ≠ ending)
    (h : fields.flatMap (fun field => opening ++ (field ++ mark :: closing)) ++ ending =
      others.flatMap (fun other => opening ++ (other ++ mark :: closing)) ++ ending) : fields = others := by
  induction fields generalizing others with
  | nil =>
    cases others with
    | nil => rfl
    | cons other others =>
      rw [List.flatMap_nil, List.nil_append, List.flatMap_cons, List.append_assoc, List.append_assoc] at h
      exact absurd h.symm (hending _)
  | cons field fields ih =>
    cases others with
    | nil =>
      rw [List.flatMap_nil, List.nil_append, List.flatMap_cons, List.append_assoc, List.append_assoc] at h
      exact absurd h (hending _)
    | cons other others =>
      rw [List.flatMap_cons, List.flatMap_cons] at h
      simp only [List.append_assoc, List.append_cancel_left_eq, List.cons_append] at h
      obtain ⟨hfield, hrest⟩ := append_mark_inj (hfields field List.mem_cons_self)
        (hothers other List.mem_cons_self) h
      rw [hfield, ih (fun f hf => hfields f (List.mem_cons_of_mem _ hf))
        (fun f hf => hothers f (List.mem_cons_of_mem _ hf)) ((List.append_cancel_left_eq _ _ _).mp hrest)]

end ComplianceHub.Lib
