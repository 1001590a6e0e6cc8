import ComplianceHub.References.Completed

/-!
# The sources of an issuance

* `PrimaryOf` : one of the sources is primary, and has the URL;
* `FitsSources` : a URL that is stored as its source will have it;
* `Keyed` : the keys of the tables, and that the source of a file has no URL;
* `Rewrites` : a write of the sources of one issuance; `SolePrimary` : the primary one among them;
* `primaryOf_syncedSources` : what follows a URL leaves one primary source exactly if it fits.
-/

namespace ComplianceHub.References

open ComplianceHub.Lib

/-! ## The property -/

/-- One of the sources is primary, and has the URL. -/
def PrimaryOf (sources : List IssuanceSource) (source_url : Option String) : Prop :=
  sources ≠ [] →
    ∃ primary, sources.filter IssuanceSource.isPrimary = [primary] ∧ source_url.getD "" = primary.url.getD ""

/-- Whether a source is one of a URL. -/
def IssuanceSource.isOfUrl (source : IssuanceSource) : Bool :=
  source.sourceType = "official_external" || source.sourceType = "google_drive"

/-- What is primary once an issuance has no URL: the uploaded copy created last, or a primary source that is
not one of a URL. -/
def Register.primaryWithoutUrl (db : Register) (id : Nat) : Option IssuanceSource :=
  match latest IssuanceSource.createdAt ((db.sourcesOf id).filter fun source => source.sourceType = "uploaded_copy") with
  | some uploaded => some uploaded
  | none => (db.sourcesOf id).find? fun source => source.isPrimary && !source.isOfUrl

/-- The URL that an issuance is given is stored as its source will have it. -/
def FitsSources (db : Register) (id : Nat) (source_url : Json) : Prop :=
  match trimmed (some source_url) with
  | .ok (some url) => source_url = .string (withoutSlash url)
  | .ok none => db.sourcesOf id ≠ [] →
      ∃ primary, db.primaryWithoutUrl id = some primary ∧ orElse (some source_url) "" = primary.url.getD ""
  | .error _ => True

/-! ## Keys -/

structure Keyed (db : Register) : Prop where
  issuances : (db.issuances.map Issuance.id).Nodup
  sources : (db.sources.map IssuanceSource.id).Nodup
  owned : ∀ source ∈ db.sources, source.issuanceId ∈ db.issuances.map Issuance.id
  /-- The source of a file has no URL. -/
  copies : ∀ source ∈ db.sources, source.sha256 ≠ none → source.url = none

/-- A write of the sources of one issuance. -/
structure Rewrites (id : Nat) (db db' : Register) : Prop where
  keyed : Keyed db'
  issuances : db'.issuances = db.issuances
  apart : ∀ other, other ≠ id → db'.sourcesOf other = db.sourcesOf other

/-- The one primary source of an issuance. -/
structure SolePrimary (db : Register) (id : Nat) (primary : IssuanceSource) : Prop where
  mem : primary ∈ db.sourcesOf id
  isPrimary : primary.isPrimary = true
  sole : ∀ other ∈ db.sourcesOf id, other.isPrimary = true → other = primary

variable {s : Services} {db db' : Register} {id : Nat} {row source primary other : IssuanceSource}

theorem mem_sourcesOf : source ∈ db.sourcesOf id ↔ source ∈ db.sources ∧ source.issuanceId = id := by
  rw [Register.sourcesOf, List.mem_filter, decide_eq_true_eq]

theorem SolePrimary.primaryOf_iff (h : SolePrimary db id primary) (hkeys : Keyed db) {source_url : Option String} :
    PrimaryOf (db.sourcesOf id) source_url ↔ source_url.getD "" = primary.url.getD "" := by
  have hnodup : (db.sourcesOf id).Nodup := (List.Nodup.of_map _ hkeys.sources).filter _
  have hfilter : (db.sourcesOf id).filter IssuanceSource.isPrimary = [primary] :=
    filter_of_unique hnodup h.mem h.isPrimary h.sole
  constructor
  · intro hprimary
    obtain ⟨other, hother, hurl⟩ := hprimary (List.ne_nil_of_mem h.mem)
    rw [hfilter] at hother
    rw [List.singleton_injective hother]
    exact hurl
  · intro hurl _
    exact ⟨primary, hfilter, hurl⟩

theorem PrimaryOf.sole {source_url : Option String} (h : PrimaryOf (db.sourcesOf id) source_url)
    (hsome : db.sourcesOf id ≠ []) : ∃ primary, SolePrimary db id primary ∧ source_url.getD "" = primary.url.getD "" := by
  obtain ⟨primary, hfilter, hurl⟩ := h hsome
  have hmem : primary ∈ (db.sourcesOf id).filter IssuanceSource.isPrimary := by
    rw [hfilter]
    exact List.mem_singleton_self primary
  obtain ⟨hof, hprimary⟩ := List.mem_filter.mp hmem
  refine ⟨primary, ⟨hof, hprimary, fun other hother hflag => ?_⟩, hurl⟩
  have hlisted : other ∈ (db.sourcesOf id).filter IssuanceSource.isPrimary := List.mem_filter.mpr ⟨hother, hflag⟩
  rw [hfilter] at hlisted
  exact List.mem_singleton.mp hlisted

/-! ## Writes of sources -/

theorem Rewrites.trans {db'' : Register} (h : Rewrites id db db') (h' : Rewrites id db' db'') : Rewrites id db db'' where
  keyed := h'.keyed
  issuances := h'.issuances.trans h.issuances
  apart other hne := (h'.apart other hne).trans (h.apart other hne)

section
variable {f : IssuanceSource → IssuanceSource}

theorem sourcesOf_mapSources (hof : ∀ source ∈ db.sources, (f source).issuanceId = source.issuanceId) (id : Nat) :
    (db.mapSources f).sourcesOf id = (db.sourcesOf id).map f := by
  unfold Register.sourcesOf Register.mapSources
  rw [List.filter_map]
  congr 1
  apply List.filter_congr
  intro source hsource
  show decide ((f source).issuanceId = id) = decide (source.issuanceId = id)
  rw [hof source hsource]

theorem rewrites_mapSources (h : Keyed db) (hid : ∀ source ∈ db.sources, (f source).id = source.id)
    (hof : ∀ source ∈ db.sources, (f source).issuanceId = source.issuanceId)
    (helse : ∀ source ∈ db.sources, source.issuanceId ≠ id → f source = source)
    (hcopies : ∀ source ∈ db.sources, (f source).sha256 ≠ none → (f source).url = none) :
    Rewrites id db (db.mapSources f) where
  keyed.issuances := h.issuances
  keyed.sources := by
    show ((db.sources.map f).map IssuanceSource.id).Nodup
    have hids : db.sources.map (IssuanceSource.id ∘ f) = db.sources.map IssuanceSource.id := List.map_congr_left hid
    rw [List.map_map, hids]
    exact h.sources
  keyed.owned source hsource := by
    obtain ⟨row, hrow, rfl⟩ := List.mem_map.mp hsource
    rw [hof row hrow]
    exact h.owned row hrow
  keyed.copies source hsource := by
    obtain ⟨row, hrow, rfl⟩ := List.mem_map.mp hsource
    exact hcopies row hrow
  issuances := rfl
  apart other hne := by
    rw [sourcesOf_mapSources hof]
    refine (List.map_congr_left fun source hsource => ?_).trans (List.map_id _)
    obtain ⟨hmem, hother⟩ := mem_sourcesOf.mp hsource
    exact helse source hmem fun hsame => hne (hother.symm.trans hsame)

end

@[simp] theorem clearPrimary_url (now : Int) : (clearPrimary id now source).url = source.url := by
  unfold clearPrimary
  split_ifs <;> rfl

@[simp] theorem clearPrimary_sourceType (now : Int) : (clearPrimary id now source).sourceType = source.sourceType := by
  unfold clearPrimary
  split_ifs <;> rfl

theorem clearPrimary_of_ne (h : source.issuanceId ≠ id) (now : Int) : clearPrimary id now source = source := if_neg h

theorem rewrites_clearPrimary (h : Keyed db) (id : Nat) (now : Int) :
    Rewrites id db (db.mapSources (clearPrimary id now)) := by
  refine rewrites_mapSources h (fun source _ => clearPrimary_id id now source)
    (fun source _ => clearPrimary_issuanceId id now source) (fun source _ hne => clearPrimary_of_ne hne now) ?_
  intro source hsource
  have hcopy := h.copies source hsource
  unfold clearPrimary
  split_ifs <;> exact hcopy

theorem clearUrlPrimary_eq (id : Nat) (now : Int) (source : IssuanceSource) :
    clearUrlPrimary id now source = clearPrimary id now source ∨ clearUrlPrimary id now source = source := by
  unfold clearUrlPrimary
  split_ifs
  · exact .inl rfl
  · exact .inr rfl

@[simp] theorem clearUrlPrimary_issuanceId (id : Nat) (now : Int) (source : IssuanceSource) :
    (clearUrlPrimary id now source).issuanceId = source.issuanceId := by
  rcases clearUrlPrimary_eq id now source with h | h <;> rw [h]
  exact clearPrimary_issuanceId id now source

theorem rewrites_clearUrlPrimary (h : Keyed db) (id : Nat) (now : Int) :
    Rewrites id db (db.mapSources (clearUrlPrimary id now)) := by
  refine rewrites_mapSources h (fun source _ => ?_) (fun source _ => clearUrlPrimary_issuanceId id now source)
    (fun source _ hne => ?_) (fun source hsource => ?_)
  · rcases clearUrlPrimary_eq id now source with h | h <;> rw [h]
    exact clearPrimary_id id now source
  · rcases clearUrlPrimary_eq id now source with h | h <;> rw [h]
    exact clearPrimary_of_ne hne now
  · have hcopy := h.copies source hsource
    rcases clearUrlPrimary_eq id now source with h | h <;> rw [h]
    · unfold clearPrimary
      split_ifs <;> exact hcopy
    · exact hcopy

/-- A write changes a row but for its time. -/
theorem IssuanceSource.saved_eq (row source : IssuanceSource) (now : Int) :
    ∃ time, row.saved source now = { source with updatedAt := time } := by
  unfold IssuanceSource.saved
  split_ifs with hsame
  · exact ⟨row.updatedAt, hsame.symm⟩
  · exact ⟨now, rfl⟩

theorem mem_saveSource {now : Int} (h : other ∈ (db.saveSource source now).sources) :
    (∃ row ∈ db.sources, row.id = source.id ∧ other = row.saved source now) ∨ other ∈ db.sources ∧ other.id ≠ source.id :=
  mem_change h

/-- A source is written over the row of its key. -/
theorem rewrites_saveSource (h : Keyed db) (hrow : row ∈ db.sourcesOf id) (source : IssuanceSource)
    (hid : source.id = row.id) (hof : source.issuanceId = id) (hcopy : source.sha256 ≠ none → source.url = none) (now : Int) :
    Rewrites id db (db.saveSource source now) := by
  obtain ⟨hmem, howner⟩ := mem_sourcesOf.mp hrow
  have hunique : ∀ other ∈ db.sources, other.id = source.id → other = row := fun other hother hsame =>
    List.inj_on_of_nodup_map h.sources hother hmem (hsame.trans hid)
  refine rewrites_mapSources h (fun other hother => ?_) (fun other hother => ?_) (fun other hother hne => ?_)
    (fun other hother => ?_)
  · split_ifs with hsame
    · exact IssuanceSource.saved_id hsame.symm
    · rfl
  · split_ifs with hsame
    · rw [hunique other hother hsame]
      exact IssuanceSource.saved_issuanceId (hof.trans howner.symm)
    · rfl
  · refine if_neg fun hsame => hne ?_
    rw [hunique other hother hsame]
    exact howner
  · split_ifs with hsame
    · obtain ⟨time, hsaved⟩ := IssuanceSource.saved_eq other source now
      rw [hsaved]
      exact hcopy
    · exact h.copies other hother

theorem rewrites_insertSource (h : Keyed db) (hof : source.issuanceId = id) (hid : id ∈ db.issuances.map Issuance.id)
    (hcopy : source.sha256 ≠ none → source.url = none) : Rewrites id db (db.insertSource source) where
  keyed.issuances := h.issuances
  keyed.sources := by
    refine nodup_column_concat h.sources fun row hrow hsame => nextId_notMem (db.sources.map IssuanceSource.id) ?_
    exact List.mem_map.mpr ⟨row, hrow, hsame⟩
  keyed.owned other hother := by
    rcases List.mem_append.mp hother with hother | hother
    · exact h.owned other hother
    · rw [List.mem_singleton.mp hother]
      show source.issuanceId ∈ _
      rw [hof]
      exact hid
  keyed.copies other hother := by
    rcases List.mem_append.mp hother with hother | hother
    · exact h.copies other hother
    · rw [List.mem_singleton.mp hother]
      exact hcopy
  issuances := rfl
  apart other hne := by
    unfold Register.sourcesOf Register.insertSource
    rw [List.filter_append, List.filter_cons_of_neg, List.filter_nil, List.append_nil]
    rw [decide_eq_true_eq]
    show ¬ source.issuanceId = other
    rw [hof]
    exact hne.symm

/-! ## Which source is primary after a write -/

theorem mem_sourcesOf_clearPrimary (h : source ∈ db.sourcesOf id) (now : Int) :
    clearPrimary id now source ∈ (db.mapSources (clearPrimary id now)).sourcesOf id := by
  rw [sourcesOf_mapSources fun source _ => clearPrimary_issuanceId id now source]
  exact List.mem_map_of_mem h

theorem not_isPrimary_of_clearPrimary {now : Int} (h : other ∈ (db.mapSources (clearPrimary id now)).sourcesOf id) :
    other.isPrimary = false := by
  rw [sourcesOf_mapSources fun source _ => clearPrimary_issuanceId id now source] at h
  obtain ⟨row, hrow, rfl⟩ := List.mem_map.mp h
  unfold clearPrimary
  rw [if_pos (mem_sourcesOf.mp hrow).2]

/-- A source is written as the primary one, where no other one is. -/
theorem solePrimary_saveSource (h : Keyed db) (hrow : row ∈ db.sourcesOf id) (source : IssuanceSource)
    (hid : source.id = row.id) (hof : source.issuanceId = id) (hprimary : source.isPrimary = true)
    (hnone : ∀ other ∈ db.sourcesOf id, other.isPrimary = false) (now : Int) :
    ∃ primary, SolePrimary (db.saveSource source now) id primary ∧ primary.url = source.url := by
  obtain ⟨hmem, -⟩ := mem_sourcesOf.mp hrow
  obtain ⟨time, hsaved⟩ := IssuanceSource.saved_eq row source now
  refine ⟨row.saved source now, ⟨mem_sourcesOf.mpr ⟨?_, ?_⟩, ?_, ?_⟩, ?_⟩
  · exact List.mem_map.mpr ⟨row, hmem, if_pos hid.symm⟩
  · rw [hsaved]
    exact hof
  · rw [hsaved]
    exact hprimary
  · intro other hother hflag
    obtain ⟨hother, howner⟩ := mem_sourcesOf.mp hother
    rcases mem_saveSource hother with ⟨old, hold, hsame, rfl⟩ | ⟨hother, -⟩
    · rw [List.inj_on_of_nodup_map h.sources hold hmem (hsame.trans hid)]
    · rw [hnone other (mem_sourcesOf.mpr ⟨hother, howner⟩)] at hflag
      cases hflag
  · rw [hsaved]

/-- A new source is the primary one, where no other one is. -/
theorem solePrimary_insertSource (source : IssuanceSource) (hof : source.issuanceId = id) (hprimary : source.isPrimary = true)
    (hnone : ∀ other ∈ db.sourcesOf id, other.isPrimary = false) :
    ∃ primary, SolePrimary (db.insertSource source) id primary ∧ primary.url = source.url := by
  refine ⟨{ source with id := nextId (db.sources.map IssuanceSource.id) }, ⟨mem_sourcesOf.mpr ⟨?_, hof⟩, hprimary, ?_⟩, rfl⟩
  · exact List.mem_append_right _ (List.mem_singleton_self _)
  · intro other hother hflag
    obtain ⟨hother, howner⟩ := mem_sourcesOf.mp hother
    rcases List.mem_append.mp hother with hother | hother
    · rw [hnone other (mem_sourcesOf.mpr ⟨hother, howner⟩)] at hflag
      cases hflag
    · exact List.mem_singleton.mp hother

/-- A source is written that is not primary. -/
theorem SolePrimary.saveSource (h : SolePrimary db id primary) (hne : primary.id ≠ source.id)
    (hflag : source.isPrimary = false) (now : Int) : SolePrimary (db.saveSource source now) id primary where
  mem := by
    obtain ⟨hmem, hof⟩ := mem_sourcesOf.mp h.mem
    exact mem_sourcesOf.mpr ⟨List.mem_map.mpr ⟨primary, hmem, if_neg hne⟩, hof⟩
  isPrimary := h.isPrimary
  sole other hother hprimary := by
    obtain ⟨hother, howner⟩ := mem_sourcesOf.mp hother
    rcases mem_saveSource hother with ⟨old, -, -, rfl⟩ | ⟨hother, -⟩
    · obtain ⟨time, hsaved⟩ := IssuanceSource.saved_eq old source now
      rw [hsaved] at hprimary
      cases hflag.symm.trans hprimary
    · exact h.sole other (mem_sourcesOf.mpr ⟨hother, howner⟩) hprimary

theorem SolePrimary.insertSource (h : SolePrimary db id primary) (hflag : source.isPrimary = false) :
    SolePrimary (db.insertSource source) id primary where
  mem := by
    obtain ⟨hmem, hof⟩ := mem_sourcesOf.mp h.mem
    exact mem_sourcesOf.mpr ⟨List.mem_append_left _ hmem, hof⟩
  isPrimary := h.isPrimary
  sole other hother hprimary := by
    obtain ⟨hother, howner⟩ := mem_sourcesOf.mp hother
    rcases List.mem_append.mp hother with hother | hother
    · exact h.sole other (mem_sourcesOf.mpr ⟨hother, howner⟩) hprimary
    · rw [List.mem_singleton.mp hother] at hprimary
      cases hflag.symm.trans hprimary

/-! ## The URL and the sources -/

theorem exists_latest (time : IssuanceSource → Int) {sources : List IssuanceSource} (h : sources ≠ []) :
    ∃ source, latest time sources = some source := by
  have hlast : ∃ source ∈ sources, ∀ other ∈ sources, time other ≤ time source := by
    induction sources with
    | nil => exact absurd rfl h
    | cons first rest ih =>
      by_cases hrest : rest = []
      · subst hrest
        exact ⟨first, List.mem_cons_self, by simp⟩
      · obtain ⟨source, hmem, hafter⟩ := ih hrest
        by_cases hle : time first ≤ time source
        · exact ⟨source, List.mem_cons_of_mem _ hmem, List.forall_mem_cons.mpr ⟨hle, hafter⟩⟩
        · refine ⟨first, List.mem_cons_self, List.forall_mem_cons.mpr ⟨Int.le_refl _, fun other hother => ?_⟩⟩
          have := hafter other hother
          omega
  obtain ⟨source, hmem, hafter⟩ := hlast
  rw [← Option.isSome_iff_exists, latest, List.find?_isSome]
  exact ⟨source, hmem, by simpa using hafter⟩

theorem clearUrlPrimary_of_uploaded (h : source.sourceType = "uploaded_copy") (now : Int) :
    clearUrlPrimary id now source = source := by
  refine if_neg ?_
  rw [h]
  decide

/-- The uploaded copies are passed over. -/
theorem uploaded_clearUrlPrimary (db : Register) (id : Nat) (now : Int) :
    ((db.mapSources (clearUrlPrimary id now)).sourcesOf id).filter (fun source => source.sourceType = "uploaded_copy") =
      (db.sourcesOf id).filter fun source => source.sourceType = "uploaded_copy" := by
  have htype (source : IssuanceSource) : (clearUrlPrimary id now source).sourceType = source.sourceType := by
    rcases clearUrlPrimary_eq id now source with h | h <;> rw [h]
    exact clearPrimary_sourceType now
  have hsame : (fun source : IssuanceSource => decide (source.sourceType = "uploaded_copy")) ∘ clearUrlPrimary id now =
      fun source => decide (source.sourceType = "uploaded_copy") := by
    funext source
    show decide ((clearUrlPrimary id now source).sourceType = "uploaded_copy") = _
    rw [htype]
  rw [sourcesOf_mapSources fun source _ => clearUrlPrimary_issuanceId id now source, List.filter_map, hsame]
  refine (List.map_congr_left fun source hsource => ?_).trans (List.map_id _)
  exact clearUrlPrimary_of_uploaded (of_decide_eq_true (List.mem_filter.mp hsource).2) now

/-- The writes that follow the URL of an issuance stay with its sources. -/
theorem rewrites_syncedSources (h : Keyed db) (s : Services) (hid : id ∈ db.issuances.map Issuance.id)
    (url : Option String) : Rewrites id db (syncedSources s id url db) := by
  unfold syncedSources
  cases url with
  | none =>
    have hcleared := rewrites_clearUrlPrimary h id s.now
    dsimp only
    split
    · exact hcleared
    · rename_i uploaded huploaded
      have hmem := List.mem_of_mem_filter (mem_of_latest huploaded)
      have hagain := rewrites_clearPrimary hcleared.keyed id s.now
      refine (hcleared.trans hagain).trans
        (rewrites_saveSource hagain.keyed (mem_sourcesOf_clearPrimary hmem s.now) _ ?_ ?_ ?_ s.now)
      · rw [clearPrimary_id]
      · exact (mem_sourcesOf.mp hmem).2
      · exact hcleared.keyed.copies uploaded (mem_sourcesOf.mp hmem).1
  | some url =>
    have hcleared := rewrites_clearPrimary h id s.now
    dsimp only
    split
    · rename_i source hsource
      have hmem := List.mem_of_find?_eq_some hsource
      refine hcleared.trans
        (rewrites_saveSource hcleared.keyed (mem_sourcesOf_clearPrimary hmem s.now) _ ?_ ?_ ?_ s.now)
      · rw [clearPrimary_id]
      · exact (mem_sourcesOf.mp hmem).2
      · intro hfile
        have hnone := h.copies source (mem_sourcesOf.mp hmem).1 hfile
        have hfound := List.find?_some hsource
        rw [hnone] at hfound
        cases hfound
    · refine hcleared.trans (rewrites_insertSource hcleared.keyed rfl hid ?_)
      intro hfile
      exact absurd rfl hfile

/-- What is stored without a URL: nothing, or a blank text. -/
theorem orElse_of_blank {value : Json} {text : Option String} (htrim : trimmed (some value) = .ok none)
    (hcolumn : columnText s value = .ok text) : orElse (some value) "" = text.getD "" := by
  cases value with
  | null =>
    cases hcolumn
    rfl
  | string t =>
    cases hcolumn
    show (if t = "" then "" else t) = t
    split_ifs with h
    · exact h.symm
    · rfl
  | bool b => cases htrim
  | number n => cases htrim
  | array items => cases htrim
  | object fields => cases htrim

/-- With a URL its source is the primary one. -/
theorem solePrimary_syncedSources (h : Keyed db) (s : Services) (id : Nat) (url : String) :
    ∃ primary, SolePrimary (syncedSources s id (some url) db) id primary ∧ primary.url = some (withoutSlash url) := by
  have hcleared := rewrites_clearPrimary h id s.now
  unfold syncedSources
  dsimp only
  split
  · rename_i source hsource
    have hmem := List.mem_of_find?_eq_some hsource
    refine solePrimary_saveSource hcleared.keyed (mem_sourcesOf_clearPrimary hmem s.now) _ ?_ ?_ rfl ?_ s.now
    · rw [clearPrimary_id]
    · exact (mem_sourcesOf.mp hmem).2
    · exact fun _ => not_isPrimary_of_clearPrimary
  · exact solePrimary_insertSource _ rfl rfl fun _ => not_isPrimary_of_clearPrimary

theorem clearUrlPrimary_of_url (h : source.isOfUrl = true) (now : Int) :
    clearUrlPrimary id now source = clearPrimary id now source :=
  if_pos (by simpa [IssuanceSource.isOfUrl] using h)

theorem clearUrlPrimary_of_other (h : source.isOfUrl = false) (now : Int) : clearUrlPrimary id now source = source :=
  if_neg (by simpa [IssuanceSource.isOfUrl] using h)

theorem mem_sourcesOf_clearUrlPrimary {now : Int} :
    other ∈ (db.mapSources (clearUrlPrimary id now)).sourcesOf id ↔
      ∃ source ∈ db.sourcesOf id, clearUrlPrimary id now source = other := by
  rw [sourcesOf_mapSources fun source _ => clearUrlPrimary_issuanceId id now source, List.mem_map]

theorem SolePrimary.clearUrlPrimary (h : SolePrimary db id primary) (htype : primary.isOfUrl = false) (now : Int) :
    SolePrimary (db.mapSources (clearUrlPrimary id now)) id primary where
  mem := mem_sourcesOf_clearUrlPrimary.mpr ⟨primary, h.mem, clearUrlPrimary_of_other htype now⟩
  isPrimary := h.isPrimary
  sole other hother hflag := by
    obtain ⟨source, hsource, rfl⟩ := mem_sourcesOf_clearUrlPrimary.mp hother
    rcases clearUrlPrimary_eq id now source with heq | heq
    · rw [heq, clearPrimary, if_pos (mem_sourcesOf.mp hsource).2] at hflag
      cases hflag
    · rw [heq] at hflag ⊢
      exact h.sole source hsource hflag

theorem SolePrimary.none_of_clearUrlPrimary (h : SolePrimary db id primary) (htype : primary.isOfUrl = true) {now : Int}
    (hother : other ∈ (db.mapSources (References.clearUrlPrimary id now)).sourcesOf id) : other.isPrimary = false := by
  obtain ⟨source, hsource, rfl⟩ := mem_sourcesOf_clearUrlPrimary.mp hother
  cases hurl : source.isOfUrl with
  | true =>
    rw [clearUrlPrimary_of_url hurl, clearPrimary, if_pos (mem_sourcesOf.mp hsource).2]
  | false =>
    rw [clearUrlPrimary_of_other hurl]
    by_contra hflag
    rw [h.sole source hsource (by simpa using hflag), htype] at hurl
    cases hurl

/-- Without a URL and uploaded copies a primary source stays so where its type is not one of URLs. -/
theorem primaryOf_clearUrlPrimary (h : Keyed db) {old text : Option String} (hold : PrimaryOf (db.sourcesOf id) old)
    (now : Int) : PrimaryOf ((db.mapSources (clearUrlPrimary id now)).sourcesOf id) text ↔
      (db.sourcesOf id ≠ [] → ∃ primary,
        ((db.sourcesOf id).find? fun source => source.isPrimary && !source.isOfUrl) = some primary ∧
          text.getD "" = primary.url.getD "") := by
  have hcleared := (rewrites_clearUrlPrimary h id now).keyed
  have hmap : (db.mapSources (clearUrlPrimary id now)).sourcesOf id = (db.sourcesOf id).map (clearUrlPrimary id now) :=
    sourcesOf_mapSources (fun source _ => clearUrlPrimary_issuanceId id now source) id
  by_cases hnone : db.sourcesOf id = []
  · rw [hmap, hnone]
    simp [PrimaryOf]
  · obtain ⟨primary, hsole, -⟩ := hold.sole hnone
    cases htype : primary.isOfUrl with
    | true =>
      constructor
      · intro hprimary
        obtain ⟨other, hother, -⟩ := hprimary.sole (by rw [hmap]; simpa using hnone)
        cases (hsole.none_of_clearUrlPrimary htype hother.mem).symm.trans hother.isPrimary
      · intro hfound
        obtain ⟨found, hfind, -⟩ := hfound hnone
        have hfree := List.find?_some hfind
        rw [Bool.and_eq_true] at hfree
        rw [hsole.sole found (List.mem_of_find?_eq_some hfind) hfree.1, htype] at hfree
        cases hfree.2
    | false =>
      have hfind : ((db.sourcesOf id).find? fun source => source.isPrimary && !source.isOfUrl) = some primary := by
        refine find?_of_unique hsole.mem ?_ fun other hother hp => ?_
        · rw [hsole.isPrimary, htype]
          rfl
        · exact hsole.sole other hother (Bool.and_eq_true_iff.mp hp).1
      rw [(hsole.clearUrlPrimary htype now).primaryOf_iff hcleared, hfind]
      constructor
      · exact fun hurl _ => ⟨primary, rfl, hurl⟩
      · intro hfits
        obtain ⟨other, hother, hurl⟩ := hfits hnone
        rw [Option.some.inj hother]
        exact hurl

/-- The URL that is stored is the primary source's exactly if it fits the sources. -/
theorem primaryOf_syncedSources (h : Keyed db) {value : Json} {old text url : Option String}
    (hold : PrimaryOf (db.sourcesOf id) old) (hid : id ∈ db.issuances.map Issuance.id)
    (hcolumn : columnText s value = .ok text) (htrim : trimmed (some value) = .ok url) :
    PrimaryOf ((syncedSources s id url db).sourcesOf id) text ↔ FitsSources db id value := by
  have hkeyed := (rewrites_syncedSources h s hid url).keyed
  unfold FitsSources
  rw [htrim]
  cases url with
  | some url =>
    obtain ⟨given, rfl, rfl⟩ := trimmed_eq_some htrim
    cases hcolumn
    obtain ⟨primary, hsole, hurl⟩ := solePrimary_syncedSources h s id (trim given)
    rw [hsole.primaryOf_iff hkeyed, hurl]
    exact Json.string.injEq _ _ ▸ Iff.rfl
  | none =>
    dsimp only
    rw [orElse_of_blank htrim hcolumn]
    unfold Register.primaryWithoutUrl
    have huploaded := uploaded_clearUrlPrimary db id s.now
    unfold syncedSources at hkeyed ⊢
    dsimp only at hkeyed ⊢
    rw [huploaded] at hkeyed ⊢
    cases hlatest : latest IssuanceSource.createdAt
        ((db.sourcesOf id).filter fun source => source.sourceType = "uploaded_copy") with
    | none => exact primaryOf_clearUrlPrimary h hold s.now
    | some uploaded =>
      rw [hlatest] at hkeyed
      have hmem := List.mem_of_mem_filter (mem_of_latest hlatest)
      have htype := of_decide_eq_true (List.mem_filter.mp (mem_of_latest hlatest)).2
      have hcleared := rewrites_clearPrimary (rewrites_clearUrlPrimary h id s.now).keyed id s.now
      have hcopy : uploaded ∈ (db.mapSources (clearUrlPrimary id s.now)).sourcesOf id :=
        mem_sourcesOf_clearUrlPrimary.mpr ⟨uploaded, hmem, clearUrlPrimary_of_uploaded htype s.now⟩
      obtain ⟨primary, hsole, hurl⟩ : ∃ primary, SolePrimary (((db.mapSources (clearUrlPrimary id s.now)).mapSources
          (clearPrimary id s.now)).saveSource { uploaded with isPrimary := true } s.now) id primary ∧
          primary.url = uploaded.url := by
        refine solePrimary_saveSource hcleared.keyed (mem_sourcesOf_clearPrimary hcopy s.now) _ ?_ ?_ rfl ?_ s.now
        · rw [clearPrimary_id]
        · exact (mem_sourcesOf.mp hmem).2
        · exact fun _ => not_isPrimary_of_clearPrimary
      rw [hsole.primaryOf_iff hkeyed, hurl]
      constructor
      · exact fun hurl _ => ⟨uploaded, rfl, hurl⟩
      · intro hfits
        obtain ⟨other, hother, hurl⟩ := hfits (List.ne_nil_of_mem hmem)
        rw [Option.some.inj hother]
        exact hurl

end ComplianceHub.References
