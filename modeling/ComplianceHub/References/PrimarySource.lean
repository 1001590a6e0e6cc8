import ComplianceHub.References.Sources

/-!
# The primary source

* `completedCalls` : calls that complete, from a register without issuances;
* `OnePrimary` : one source of every issuance is primary, with the URL of the issuance;
* `KeepsPrimary` : a call stores a URL that the primary source has too;
* `createIssuance_primary`, …, `completedCall_primary` : what a completed call leaves;
* `one_primary_source_iff` : the runs in which one source is primary.
-/

namespace ComplianceHub.References

open ComplianceHub.Lib

/-- Completed calls one after the other, from a register without issuances. -/
def completedCalls : System Register (Services × Call) where
  init db := db.issuances = [] ∧ db.sources = []
  step db l db' := l.2.run l.1 db = .ok () db'

/-- Exactly one primary source. -/
def OnePrimary (db : Register) : Prop :=
  ∀ issuance ∈ db.issuances, PrimaryOf (db.sourcesOf issuance.id) issuance.source_url

/-- The URL of a stored issuance. -/
def Register.urlOf (db : Register) (id : Nat) : Option String := (db.issuance? id).bind Issuance.source_url

/-- A URL that is stored fits the sources, and a first source is uploaded where there is none. -/
def KeepsPrimary (db : Register) : Call → Prop
  | .createIssuance dto => FitsSources db (nextId (db.issuances.map Issuance.id)) (dto.source_url.getD .null)
  | .updateIssuance id dto => FitsSources db id (dto.source_url.getD (nullable (db.urlOf id)))
  | .uploadAttachment id _ => isSet (db.urlOf id) = true → db.sourcesOf id ≠ []
  | _ => True

variable {s : Services} {db db' : Register} {id : Nat} {source primary : IssuanceSource}

/-! ## Issuances -/

section
variable {issuance written : Issuance}

/-- The issuances that are there stay, and their sources. -/
theorem Keyed.of_ids (h : Keyed db) (hids : db'.issuances.map Issuance.id = db.issuances.map Issuance.id)
    (hsources : db'.sources = db.sources) : Keyed db' where
  issuances := by
    rw [hids]
    exact h.issuances
  sources := by
    rw [hsources]
    exact h.sources
  owned := by
    rw [hsources, hids]
    exact h.owned
  copies := by
    rw [hsources]
    exact h.copies

theorem Keyed.saveIssuance (h : Keyed db) (written : Issuance) : Keyed (db.saveIssuance written) :=
  h.of_ids (ids_saveIssuance written) rfl

theorem Keyed.insertIssuance (h : Keyed db) (hid : written.id = nextId (db.issuances.map Issuance.id)) :
    Keyed (db.insertIssuance written) where
  issuances := nodup_insertIssuance h.issuances hid
  sources := h.sources
  owned source hsource := by
    show source.issuanceId ∈ (db.issuances ++ [written]).map Issuance.id
    rw [List.map_append]
    exact List.mem_append_left _ (h.owned source hsource)
  copies := h.copies

theorem Keyed.relate (h : Keyed db) (id : Nat) (amended : Option String) : Keyed (db.relate id amended) :=
  h.of_ids rfl rfl

/-- A new issuance has no sources yet. -/
theorem Keyed.sourcesOf_nextId (h : Keyed db) : db.sourcesOf (nextId (db.issuances.map Issuance.id)) = [] := by
  refine List.filter_eq_nil_iff.mpr fun source hsource => ?_
  rw [decide_eq_true_eq]
  intro hof
  refine nextId_notMem (db.issuances.map Issuance.id) ?_
  rw [← hof]
  exact h.owned source hsource

theorem saveIssuance_of_mem (h : Keyed db) (hmem : issuance ∈ db.issuances) :
    (db.saveIssuance issuance).issuances = db.issuances := by
  refine (List.map_congr_left fun other hother => ?_).trans (List.map_id _)
  split_ifs with hid
  · exact (List.inj_on_of_nodup_map h.issuances hother hmem hid).symm
  · rfl

theorem writeUrl_issuances (h : Keyed db) (hmem : issuance ∈ db.issuances) (url : String) :
    (db.writeUrl issuance.id url).issuances = (db.saveIssuance { issuance with source_url := some url }).issuances := by
  refine List.map_congr_left fun other hother => ?_
  show (if other.id = issuance.id then _ else _) = if other.id = issuance.id then _ else _
  split_ifs with hid
  · rw [List.inj_on_of_nodup_map h.issuances hother hmem hid]
  · rfl

/-- An issuance is written, and the sources of no other one. -/
theorem onePrimary_iff (h : OnePrimary db) (hmem : issuance ∈ db.issuances) (written : Issuance)
    (hid : written.id = issuance.id) (hissuances : db'.issuances = (db.saveIssuance written).issuances)
    (hapart : ∀ other, other ≠ issuance.id → db'.sourcesOf other = db.sourcesOf other) :
    OnePrimary db' ↔ PrimaryOf (db'.sourcesOf issuance.id) written.source_url := by
  constructor
  · intro hprimary
    rw [← hid]
    refine hprimary written ?_
    rw [hissuances]
    exact mem_saveIssuance_self hmem hid
  · intro hprimary other hother
    rw [hissuances] at hother
    rcases mem_saveIssuance_iff.mp hother with ⟨rfl, -⟩ | ⟨hother, hne⟩
    · rw [hid]
      exact hprimary
    · rw [hapart other.id (by rw [← hid]; exact hne)]
      exact h other hother

theorem createdRow_url {dto : CreateIssuanceDto} {catalog : Catalog} (h : createdRow s db dto = .ok (written, catalog)) :
    written.id = nextId (db.issuances.map Issuance.id) ∧ catalog.source_url = dto.source_url.getD .null ∧
      columnText s catalog.source_url = .ok written.source_url := by
  simp only [createdRow, createdCatalog, bind_eq_ok] at h
  obtain ⟨catalog', ⟨_, -, domains, -, _, -, _, -, hcatalog⟩, _, -, _, -, _, -, row', hrow, h⟩ := h
  cases h
  cases hcatalog
  simp only [Catalog.columns, bind_eq_ok] at hrow
  obtain ⟨_, -, _, -, _, -, _, -, _, -, _, -, url, hurl, hrow⟩ := hrow
  cases hrow
  exact ⟨rfl, rfl, hurl⟩

theorem updatedRow_url {dto : IssuanceDto} {catalog : Catalog} (h : updatedRow s db id dto = .ok (written, catalog)) :
    ∃ issuance, db.findIssuance id = .ok issuance ∧ written.id = issuance.id ∧
      catalog.source_url = dto.source_url.getD (nullable issuance.source_url) ∧
      columnText s catalog.source_url = .ok written.source_url := by
  simp only [updatedRow, updatedCatalog, bind_eq_ok] at h
  obtain ⟨_, -, issuance, hfound, catalog', ⟨_, -, domains, -, _, -, _, -, hcatalog⟩, row', hrow, h⟩ := h
  cases h
  cases hcatalog
  simp only [Catalog.columns, bind_eq_ok] at hrow
  obtain ⟨_, -, _, -, _, -, _, -, _, -, _, -, url, hurl, hrow⟩ := hrow
  cases hrow
  exact ⟨issuance, hfound, rfl, rfl, hurl⟩

theorem urlOf_of_findIssuance (h : db.findIssuance id = .ok issuance) : db.urlOf id = issuance.source_url := by
  unfold Register.findIssuance at h
  unfold Register.urlOf
  split at h
  · rename_i found hfound
    rw [hfound, Except.ok.inj h]
    rfl
  · cases h

/-! ## What a completed call leaves -/

theorem createIssuance_primary {dto : CreateIssuanceDto} (h : Keyed db) (hcall : createIssuance s dto db = .ok () db') :
    Keyed db' ∧ (OnePrimary db → (OnePrimary db' ↔ KeepsPrimary db (.createIssuance dto))) := by
  obtain ⟨written, catalog, amended, url, reason, hrow, -, htrim, -, rfl⟩ := createIssuance_returns hcall
  obtain ⟨hid, hgiven, hcolumn⟩ := createdRow_url hrow
  rw [hgiven] at htrim hcolumn
  have hkeyed := (h.insertIssuance hid).relate written.id amended
  have hlisted : written.id ∈ (db.insertIssuance written).issuances.map Issuance.id :=
    List.mem_map_of_mem (List.mem_append_right _ (List.mem_singleton_self _))
  have hsynced := rewrites_syncedSources hkeyed s hlisted url
  refine ⟨hsynced.keyed, fun hprimary => ?_⟩
  have hnone : db.sourcesOf written.id = [] := by
    rw [hid]
    exact h.sourcesOf_nextId
  have hold : PrimaryOf (((db.insertIssuance written).relate written.id amended).sourcesOf written.id) none :=
    fun hsome => absurd hnone hsome
  show _ ↔ FitsSources db (nextId (db.issuances.map Issuance.id)) _
  rw [← hid]
  refine Iff.trans ?_ (primaryOf_syncedSources hkeyed hold hlisted hcolumn htrim)
  constructor
  · intro hafter
    refine hafter written ?_
    rw [hsynced.issuances]
    exact List.mem_append_right _ (List.mem_singleton_self _)
  · intro hafter other hother
    rw [hsynced.issuances] at hother
    rcases List.mem_append.mp hother with hother | hother
    · rw [hsynced.apart other.id (by rw [hid]; exact ne_nextId hother)]
      exact hprimary other hother
    · rw [List.mem_singleton.mp hother]
      exact hafter

theorem updateIssuance_primary {dto : IssuanceDto} (h : Keyed db) (hcall : updateIssuance s id dto db = .ok () db') :
    Keyed db' ∧ (OnePrimary db → (OnePrimary db' ↔ KeepsPrimary db (.updateIssuance id dto))) := by
  obtain ⟨written, catalog, amended, url, hrow, -, htrim, rfl⟩ := updateIssuance_returns hcall
  obtain ⟨issuance, hfound, hid, hgiven, hcolumn⟩ := updatedRow_url hrow
  obtain ⟨hmem, rfl⟩ := findIssuance_eq_ok hfound
  rw [hgiven] at htrim hcolumn
  have hkeyed := (h.saveIssuance written).relate issuance.id amended
  have hlisted : issuance.id ∈ (db.saveIssuance written).issuances.map Issuance.id := by
    rw [ids_saveIssuance]
    exact List.mem_map_of_mem hmem
  have hsynced := rewrites_syncedSources hkeyed s hlisted url
  refine ⟨hsynced.keyed, fun hprimary => ?_⟩
  rw [onePrimary_iff hprimary hmem written hid hsynced.issuances hsynced.apart,
    primaryOf_syncedSources hkeyed (hprimary issuance hmem) hlisted hcolumn htrim]
  show FitsSources db issuance.id _ ↔ FitsSources db issuance.id _
  rw [urlOf_of_findIssuance hfound]

theorem addable_eq_ok {dto : AddSourceDto} {url : String} {isPrimary : Bool} (h : addable db id dto = .ok (url, isPrimary)) :
    ∃ issuance, db.findIssuance id = .ok issuance ∧ (isPrimary = false → db.sourcesOf id ≠ []) := by
  simp only [addable, bind_eq_ok] at h
  obtain ⟨issuance, hfound, _, -, url', -, h⟩ := h
  refine ⟨issuance, hfound, ?_⟩
  rintro rfl hnone
  split at h
  · cases h
  · obtain ⟨_, -, h⟩ := bind_eq_ok.mp h
    rw [hnone, List.any_nil, Bool.not_false, Bool.or_true] at h
    cases h

theorem addedSource_eq_ok {dto : AddSourceDto} {url : String} {isPrimary : Bool}
    (h : addedSource s id url isPrimary dto = .ok source) :
    source.issuanceId = id ∧ source.url = some url ∧ source.isPrimary = isPrimary ∧ source.sha256 = none := by
  simp only [addedSource, bind_eq_ok] at h
  obtain ⟨_, -, _, -, sourceType, -, h⟩ := h
  cases h
  exact ⟨rfl, rfl, rfl, rfl⟩

theorem addSource_primary {dto : AddSourceDto} (h : Keyed db) (hcall : addSource s id dto db = .ok () db') :
    Keyed db' ∧ (OnePrimary db → OnePrimary db') := by
  obtain ⟨url, isPrimary, source, haddable, hadded, rfl⟩ := addSource_returns hcall
  obtain ⟨issuance, hfound, hothers⟩ := addable_eq_ok haddable
  obtain ⟨hmem, rfl⟩ := findIssuance_eq_ok hfound
  obtain ⟨hof, hurl, hflag, hfile⟩ := addedSource_eq_ok hadded
  have hlisted : issuance.id ∈ db.issuances.map Issuance.id := List.mem_map_of_mem hmem
  have hcopy : source.sha256 ≠ none → source.url = none := fun hsome => absurd hfile hsome
  cases isPrimary with
  | true =>
    have hcleared := rewrites_clearPrimary h issuance.id s.now
    have hsaved := hcleared.trans (rewrites_insertSource hcleared.keyed hof hlisted hcopy)
    have hwritten := writeUrl_issuances hsaved.keyed (hsaved.issuances ▸ hmem) url
    have hkeyed := hsaved.keyed.of_ids (hwritten.symm ▸ ids_saveIssuance _)
      (rfl : (Register.writeUrl _ issuance.id url).sources = _)
    refine ⟨hkeyed, fun hprimary => ?_⟩
    obtain ⟨primary, hsole, hsame⟩ : ∃ primary, SolePrimary
        ((db.mapSources (clearPrimary issuance.id s.now)).insertSource source) issuance.id primary ∧ primary.url = source.url :=
      solePrimary_insertSource source hof hflag fun _ => not_isPrimary_of_clearPrimary
    refine (onePrimary_iff hprimary hmem { issuance with source_url := some url } rfl hwritten hsaved.apart).mpr ?_
    refine (hsole.primaryOf_iff hsaved.keyed).mpr ?_
    rw [hsame, hurl]
  | false =>
    have hsaved := rewrites_insertSource h hof hlisted hcopy
    refine ⟨hsaved.keyed, fun hprimary => ?_⟩
    obtain ⟨primary, hsole, hsame⟩ := (hprimary issuance hmem).sole (hothers rfl)
    refine (onePrimary_iff hprimary hmem issuance rfl ?_ hsaved.apart).mpr ?_
    · exact hsaved.issuances.trans (saveIssuance_of_mem h hmem).symm
    · exact ((hsole.insertSource hflag).primaryOf_iff hsaved.keyed).mpr hsame

theorem isSet_iff {text : Option String} : isSet text = true ↔ text.getD "" ≠ "" := by
  cases text with
  | none => simp [isSet]
  | some text => simp [isSet]

/-- The source that holds the file already is one of the issuance. -/
theorem duplicate_of_attachable {file : Option File} {attachment : Attachment}
    (h : attachable s db id file = .ok (issuance, attachment, some source)) :
    source ∈ db.sourcesOf id ∧ source.sha256 ≠ none := by
  simp only [attachable, bind_eq_ok, check_eq_ok] at h
  obtain ⟨given, -, _, -, _, hof, h⟩ := h
  have hduplicate := congrArg (fun r => r.2.2) (Except.ok.inj h)
  have hduplicate : (db.sources.find? fun source => source.sha256 = some (s.sha256 given.1.buffer)) = some source := hduplicate
  rw [hduplicate] at hof
  refine ⟨mem_sourcesOf.mpr ⟨List.mem_of_find?_eq_some hduplicate, of_decide_eq_true hof⟩, ?_⟩
  have hfile := List.find?_some hduplicate
  rw [of_decide_eq_true hfile]
  exact Option.some_ne_none _

/-- The source of a file is written. -/
def Register.writeCopy (db : Register) (s : Services) (id : Nat) (sha256 : String) (isPrimary : Bool) :
    Option IssuanceSource → Register
  | some source => db.saveSource { source with sha256 := some sha256, isPrimary } s.now
  | none => db.insertSource
      { id := 0, issuanceId := id, sourceType := "uploaded_copy", sha256 := some sha256, isPrimary, createdAt := s.now
        updatedAt := s.now }

theorem attached_of_isSet (h : isSet issuance.source_url = true) (attachment : Attachment)
    (duplicate : Option IssuanceSource) : attached s issuance attachment duplicate db =
      (db.saveIssuance { issuance with attachment := some attachment }).writeCopy s issuance.id (s.sha256 attachment.blob)
        false duplicate := by
  unfold attached
  rw [h]
  cases duplicate <;> rfl

theorem attached_of_not_isSet (h : isSet issuance.source_url = false) (attachment : Attachment)
    (duplicate : Option IssuanceSource) : attached s issuance attachment duplicate db =
      ((db.saveIssuance { issuance with attachment := some attachment }).mapSources (clearPrimary issuance.id s.now)).writeCopy
        s issuance.id (s.sha256 attachment.blob) true duplicate := by
  unfold attached
  rw [h]
  cases duplicate <;> rfl

/-- The row of a file that is uploaded again. -/
structure Holds (db : Register) (id : Nat) (source : IssuanceSource) : Prop where
  row : ∃ row ∈ db.sourcesOf id, source.id = row.id ∧ row.url = none
  issuanceId : source.issuanceId = id
  url : source.url = none

theorem Holds.clearPrimary (h : Holds db id source) (now : Int) :
    Holds (db.mapSources (References.clearPrimary id now)) id source := by
  obtain ⟨⟨row, hmem, hid, hurl⟩, hof, hnone⟩ := h
  refine ⟨⟨_, mem_sourcesOf_clearPrimary hmem now, ?_, ?_⟩, hof, hnone⟩
  · rw [clearPrimary_id]
    exact hid
  · rw [clearPrimary_url]
    exact hurl

section
variable {duplicate : Option IssuanceSource}

theorem rewrites_writeCopy (h : Keyed db) (hid : id ∈ db.issuances.map Issuance.id)
    (hduplicate : ∀ source, duplicate = some source → Holds db id source) (s : Services) (sha256 : String) (isPrimary : Bool) :
    Rewrites id db (db.writeCopy s id sha256 isPrimary duplicate) := by
  cases duplicate with
  | none => exact rewrites_insertSource h rfl hid fun _ => rfl
  | some source =>
    obtain ⟨⟨row, hmem, hid, -⟩, hof, hurl⟩ := hduplicate source rfl
    exact rewrites_saveSource h hmem { source with sha256 := some sha256, isPrimary } hid hof (fun _ => hurl) s.now

theorem solePrimary_writeCopy (h : Keyed db) (hduplicate : ∀ source, duplicate = some source → Holds db id source)
    (hnone : ∀ other ∈ db.sourcesOf id, other.isPrimary = false) (s : Services) (sha256 : String) :
    ∃ primary, SolePrimary (db.writeCopy s id sha256 true duplicate) id primary ∧ primary.url = none := by
  cases duplicate with
  | none => exact solePrimary_insertSource _ rfl rfl hnone
  | some source =>
    obtain ⟨⟨row, hmem, hid, -⟩, hof, hurl⟩ := hduplicate source rfl
    obtain ⟨primary, hsole, hsame⟩ := solePrimary_saveSource h hmem { source with sha256 := some sha256, isPrimary := true }
      hid hof rfl hnone s.now
    exact ⟨primary, hsole, hsame.trans hurl⟩

/-- A source that has a URL stays the primary one. -/
theorem SolePrimary.writeCopy (h : SolePrimary db id primary) (hkeyed : Keyed db) (hurl : primary.url ≠ none)
    (hduplicate : ∀ source, duplicate = some source → Holds db id source) (s : Services) (sha256 : String) :
    SolePrimary (db.writeCopy s id sha256 false duplicate) id primary := by
  cases duplicate with
  | none => exact h.insertSource rfl
  | some source =>
    obtain ⟨row, hmem, hid, hnone⟩ := (hduplicate source rfl).row
    refine h.saveSource (fun hsame => hurl ?_) rfl s.now
    rw [List.inj_on_of_nodup_map hkeyed.sources (mem_sourcesOf.mp h.mem).1 (mem_sourcesOf.mp hmem).1 (hsame.trans hid)]
    exact hnone

/-- A first source that is not primary. -/
theorem not_primaryOf_writeCopy (hnone : db.sourcesOf id = [])
    (hduplicate : ∀ source, duplicate = some source → Holds db id source) (s : Services) (sha256 : String)
    {source_url : Option String} : ¬ PrimaryOf ((db.writeCopy s id sha256 false duplicate).sourcesOf id) source_url := by
  cases duplicate with
  | none =>
    intro hprimary
    have hsources : (db.writeCopy s id sha256 false none).sourcesOf id = [⟨nextId (db.sources.map IssuanceSource.id), id,
        "uploaded_copy", none, some sha256, false, s.now, s.now⟩] := by
      show (db.sources ++ [_]).filter _ = _
      rw [List.filter_append, show db.sources.filter _ = [] from hnone]
      simp
    rw [hsources] at hprimary
    obtain ⟨primary, hfilter, -⟩ := hprimary (List.cons_ne_nil _ _)
    simp at hfilter
  | some source =>
    obtain ⟨row, hmem, -⟩ := (hduplicate source rfl).row
    rw [hnone] at hmem
    cases hmem

end

theorem uploadAttachment_primary {file : Option File} (h : Keyed db) (hcall : uploadAttachment s id file db = .ok () db') :
    Keyed db' ∧ (OnePrimary db → (OnePrimary db' ↔ KeepsPrimary db (.uploadAttachment id file))) := by
  obtain ⟨issuance, attachment, duplicate, hattachable, rfl⟩ := uploadAttachment_returns hcall
  have hfound : db.findIssuance id = .ok issuance := (attachable_eq_ok hattachable).1
  obtain ⟨hmem, rfl⟩ := findIssuance_eq_ok hfound
  have hsaved := h.saveIssuance { issuance with attachment := some attachment }
  have hlisted : issuance.id ∈ (db.saveIssuance { issuance with attachment := some attachment }).issuances.map Issuance.id := by
    rw [ids_saveIssuance]
    exact List.mem_map_of_mem hmem
  have hduplicate : ∀ source, duplicate = some source →
      Holds (db.saveIssuance { issuance with attachment := some attachment }) issuance.id source := by
    rintro source rfl
    obtain ⟨hsource, hfile⟩ := duplicate_of_attachable hattachable
    have hurl := h.copies source (mem_sourcesOf.mp hsource).1 hfile
    exact ⟨⟨source, hsource, rfl, hurl⟩, (mem_sourcesOf.mp hsource).2, hurl⟩
  show _ ∧ (_ → (_ ↔ (isSet (db.urlOf issuance.id) = true → db.sourcesOf issuance.id ≠ [])))
  rw [urlOf_of_findIssuance hfound]
  cases hset : isSet issuance.source_url with
  | false =>
    rw [attached_of_not_isSet hset]
    have hcleared := rewrites_clearPrimary hsaved issuance.id s.now
    have hholds := fun source hsome => (hduplicate source hsome).clearPrimary s.now
    have hwritten := hcleared.trans (rewrites_writeCopy hcleared.keyed hlisted hholds s (s.sha256 attachment.blob) true)
    obtain ⟨primary, hsole, hurl⟩ := solePrimary_writeCopy hcleared.keyed hholds (fun _ => not_isPrimary_of_clearPrimary) s
      (s.sha256 attachment.blob)
    have hempty : issuance.source_url.getD "" = "" := by
      by_contra hurl
      rw [isSet_iff.mpr hurl] at hset
      cases hset
    refine ⟨hwritten.keyed, fun hprimary => ?_⟩
    rw [onePrimary_iff hprimary hmem { issuance with attachment := some attachment } rfl hwritten.issuances hwritten.apart,
      hsole.primaryOf_iff hwritten.keyed, hurl]
    simp [hempty]
  | true =>
    rw [attached_of_isSet hset]
    have hwritten := rewrites_writeCopy hsaved hlisted hduplicate s (s.sha256 attachment.blob) false
    refine ⟨hwritten.keyed, fun hprimary => ?_⟩
    rw [onePrimary_iff hprimary hmem { issuance with attachment := some attachment } rfl hwritten.issuances hwritten.apart]
    constructor
    · intro hafter _ hnone
      have hnone : (db.saveIssuance { issuance with attachment := some attachment }).sourcesOf issuance.id = [] := hnone
      exact not_primaryOf_writeCopy hnone hduplicate s _ hafter
    · intro hsome
      obtain ⟨primary, hsole, hsame⟩ := (hprimary issuance hmem).sole (hsome rfl)
      have hurl : primary.url ≠ none := by
        intro hnone
        rw [hnone] at hsame
        exact isSet_iff.mp hset hsame
      have hstays : SolePrimary (db.saveIssuance { issuance with attachment := some attachment }) issuance.id primary :=
        ⟨hsole.mem, hsole.isPrimary, hsole.sole⟩
      exact ((hstays.writeCopy hsaved hurl hduplicate s _).primaryOf_iff hwritten.keyed).mpr hsame

/-- The source that held the file is removed. -/
theorem rewrites_removeSource (h : Keyed db) {removed : Option IssuanceSource}
    (hof : ∀ source, removed = some source → source ∈ db.sourcesOf id) : Rewrites id db (db.removeSource removed) where
  keyed.issuances := h.issuances
  keyed.sources := h.sources.sublist (List.filter_sublist.map _)
  keyed.owned source hsource := h.owned source (List.mem_of_mem_filter hsource)
  keyed.copies source hsource := h.copies source (List.mem_of_mem_filter hsource)
  issuances := rfl
  apart other hne := by
    unfold Register.sourcesOf Register.removeSource
    rw [List.filter_filter]
    apply List.filter_congr
    intro source hsource
    by_cases howner : source.issuanceId = other
    · have hstays : some source.id ≠ removed.map IssuanceSource.id := by
        intro hremoved
        obtain ⟨own, hown, hsame⟩ := Option.map_eq_some_iff.mp hremoved.symm
        obtain ⟨hmem, hid⟩ := mem_sourcesOf.mp (hof own hown)
        rw [List.inj_on_of_nodup_map h.sources hmem hsource hsame] at hid
        exact hne (howner.symm.trans hid)
      simp [howner, hstays]
    · simp [howner]

theorem mem_sourcesOf_removeSource {removed : Option IssuanceSource} : source ∈ (db.removeSource removed).sourcesOf id ↔
    source ∈ db.sourcesOf id ∧ some source.id ≠ removed.map IssuanceSource.id := by
  rw [mem_sourcesOf, mem_sourcesOf, Register.removeSource, List.mem_filter, decide_eq_true_eq]
  tauto

theorem detachable_source (h : detachable s db id = .ok (issuance, some source)) :
    source ∈ db.sourcesOf id ∧ source.sha256 ≠ none := by
  simp only [detachable, bind_eq_ok] at h
  obtain ⟨_, hfound, h⟩ := h
  split at h
  · cases h
  · rename_i attachment _
    obtain ⟨_, -, h⟩ := bind_eq_ok.mp h
    have hsource := congrArg Prod.snd (Except.ok.inj h)
    have hsource : ((db.sourcesOf id).find? fun source => source.sourceType = "uploaded_copy" &&
        source.sha256 = some (s.sha256 attachment.blob)) = some source := hsource
    refine ⟨List.mem_of_find?_eq_some hsource, ?_⟩
    have hfile := List.find?_some hsource
    simp only [Bool.and_eq_true, decide_eq_true_eq] at hfile
    rw [hfile.2]
    exact Option.some_ne_none _

/-- What a removal leaves primary, and the issuance with its URL. -/
inductive Promotion (db : Register) (issuance : Issuance) (db' : Register) : Issuance → Prop where
  | kept : db' = db → (∃ source ∈ db.sourcesOf issuance.id, source.isPrimary = true) ∨ db.sourcesOf issuance.id = [] →
      Promotion db issuance db' issuance
  | promoted {written : Issuance} {primary : IssuanceSource} :
      (∀ source ∈ db.sourcesOf issuance.id, source.isPrimary = false) → db.sourcesOf issuance.id ≠ [] →
      SolePrimary db' issuance.id primary →
      written.source_url.getD "" = primary.url.getD "" ∨
        (primary.url.getD "" = "" ∧ written.source_url = issuance.source_url) →
      Promotion db issuance db' written

theorem promoteFallback_promotion (h : Keyed db) (hmem : issuance ∈ db.issuances) (s : Services) :
    ∃ written, written.id = issuance.id ∧ Keyed (promoteFallback s issuance.id db) ∧
      (promoteFallback s issuance.id db).issuances = (db.saveIssuance written).issuances ∧
      (∀ other, other ≠ issuance.id → (promoteFallback s issuance.id db).sourcesOf other = db.sourcesOf other) ∧
      Promotion db issuance (promoteFallback s issuance.id db) written := by
  unfold promoteFallback
  split_ifs with hany
  · exact ⟨issuance, rfl, h, (saveIssuance_of_mem h hmem).symm, fun _ _ => rfl, .kept rfl (.inl (by simpa using hany))⟩
  · have hnone : ∀ source ∈ db.sourcesOf issuance.id, source.isPrimary = false := by simpa using hany
    cases hlatest : latest IssuanceSource.updatedAt (db.sourcesOf issuance.id) with
    | none =>
      refine ⟨issuance, rfl, h, (saveIssuance_of_mem h hmem).symm, fun _ _ => rfl, .kept rfl (.inr ?_)⟩
      by_contra hsome
      obtain ⟨source, hsource⟩ := exists_latest IssuanceSource.updatedAt hsome
      rw [hlatest] at hsource
      cases hsource
    | some fallback =>
      have hsource := mem_of_latest hlatest
      have hsome := List.ne_nil_of_mem hsource
      obtain ⟨hstored, hof⟩ := mem_sourcesOf.mp hsource
      have hsaved := rewrites_saveSource h hsource { fallback with isPrimary := true } rfl hof (h.copies fallback hstored) s.now
      obtain ⟨primary, hsole, hsame⟩ := solePrimary_saveSource h hsource { fallback with isPrimary := true } rfl hof rfl hnone
        s.now
      have hstays := (saveIssuance_of_mem h hmem).symm
      have hurl' : primary.url = fallback.url := hsame
      dsimp only
      split
      · rename_i url hurl
        rw [hurl] at hurl'
        split_ifs with hblank
        · refine ⟨issuance, rfl, hsaved.keyed, hstays, hsaved.apart, .promoted hnone hsome hsole (.inr ⟨?_, rfl⟩)⟩
          rw [hurl']
          exact hblank
        · have hwritten := writeUrl_issuances hsaved.keyed (hsaved.issuances ▸ hmem) url
          refine ⟨{ issuance with source_url := some url }, rfl, ?_, hwritten, hsaved.apart, ?_⟩
          · exact hsaved.keyed.of_ids (hwritten.symm ▸ ids_saveIssuance _) rfl
          · refine .promoted hnone hsome ⟨hsole.mem, hsole.isPrimary, hsole.sole⟩ (.inl ?_)
            rw [hurl']
      · rename_i hurl
        refine ⟨issuance, rfl, hsaved.keyed, hstays, hsaved.apart, .promoted hnone hsome hsole (.inr ⟨?_, rfl⟩)⟩
        rw [hurl', hurl]
        rfl

theorem deleteAttachment_primary (h : Keyed db) (hcall : deleteAttachment s id db = .ok () db') :
    Keyed db' ∧ (OnePrimary db → OnePrimary db') := by
  obtain ⟨issuance, removed, hdetachable, rfl⟩ := deleteAttachment_returns hcall
  have hfound : db.findIssuance id = .ok issuance := (detachable_eq_ok hdetachable).1
  have hsource : ∀ source, removed = some source → source ∈ db.sourcesOf id := (detachable_eq_ok hdetachable).2.1
  obtain ⟨hmem, rfl⟩ := findIssuance_eq_ok hfound
  have hremoved : Rewrites issuance.id _ ((db.saveIssuance { issuance with attachment := none }).removeSource removed) :=
    rewrites_removeSource (h.saveIssuance { issuance with attachment := none }) hsource
  have hdetached : { issuance with attachment := none } ∈
      ((db.saveIssuance { issuance with attachment := none }).removeSource removed).issuances :=
    mem_saveIssuance_self hmem rfl
  obtain ⟨written, hid, hkeyed, hissuances, hapart, hpromotion⟩ := promoteFallback_promotion hremoved.keyed hdetached s
  refine ⟨hkeyed, fun hprimary => ?_⟩
  -- the attachment is no column of the property
  have hbefore : OnePrimary (db.saveIssuance { issuance with attachment := none }) := by
    refine (onePrimary_iff hprimary hmem { issuance with attachment := none } rfl rfl fun _ _ => rfl).mpr ?_
    exact hprimary issuance hmem
  refine (onePrimary_iff hbefore hdetached written hid hissuances fun other hne => ?_).mpr ?_
  · exact (hapart other hne).trans (hremoved.apart other hne)
  have hold {source : IssuanceSource} (hstays : source ∈ ((db.saveIssuance { issuance with attachment := none }).removeSource
      removed).sourcesOf issuance.id) : source ∈ db.sourcesOf issuance.id := (mem_sourcesOf_removeSource.mp hstays).1
  cases hpromotion with
  | kept hsame hkept =>
    rw [hsame]
    rcases hkept with ⟨source, hstays, hflag⟩ | hnone
    · obtain ⟨primary, hsole, hurl⟩ := (hprimary issuance hmem).sole (List.ne_nil_of_mem (hold hstays))
      rw [hsole.sole source (hold hstays) hflag] at hstays
      have hsole' : SolePrimary ((db.saveIssuance { issuance with attachment := none }).removeSource removed) issuance.id
          primary := ⟨hstays, hsole.isPrimary, fun other hother => hsole.sole other (hold hother)⟩
      exact (hsole'.primaryOf_iff hremoved.keyed).mpr hurl
    · exact fun hsome => absurd hnone hsome
  | @promoted _ primary hnone hsome hsole hurl =>
    obtain ⟨source, hstays⟩ := List.exists_mem_of_ne_nil _ hsome
    obtain ⟨previous, hprevious, hsame⟩ := (hprimary issuance hmem).sole (List.ne_nil_of_mem (hold hstays))
    have hempty : issuance.source_url.getD "" = "" := by
      -- the primary source is the one that has been removed
      obtain ⟨own, hown, hid'⟩ : ∃ own, removed = some own ∧ own.id = previous.id := by
        by_contra hother
        have hflag := hnone previous (mem_sourcesOf_removeSource.mpr ⟨hprevious.mem, fun hid' => hother ?_⟩)
        · cases hflag.symm.trans hprevious.isPrimary
        · obtain ⟨own, hown, hsame⟩ := Option.map_eq_some_iff.mp hid'.symm
          exact ⟨own, hown, hsame⟩
      subst hown
      obtain ⟨hownmem, hfile⟩ := detachable_source hdetachable
      have hown := List.inj_on_of_nodup_map h.sources (mem_sourcesOf.mp hownmem).1 (mem_sourcesOf.mp hprevious.mem).1 hid'
      rw [hsame, ← hown, h.copies own (mem_sourcesOf.mp hownmem).1 hfile]
      rfl
    rw [hsole.primaryOf_iff hkeyed]
    rcases hurl with hurl | ⟨hblank, hurl⟩
    · exact hurl
    · rw [hurl, hblank]
      exact hempty

/-! ## Other calls -/

theorem deleteIssuance_primary (h : Keyed db) (hcall : deleteIssuance id db = .ok () db') :
    Keyed db' ∧ (OnePrimary db → OnePrimary db') := by
  obtain ⟨issuance, hfound, rfl⟩ := deleteIssuance_returns hcall
  obtain ⟨hmem, rfl⟩ := findIssuance_eq_ok hfound
  split_ifs
  · refine ⟨⟨h.issuances.sublist (List.filter_sublist.map _), h.sources.sublist (List.filter_sublist.map _), ?_, ?_⟩, ?_⟩
    · intro source hsource
      obtain ⟨hsource, hne⟩ := List.mem_filter.mp hsource
      obtain ⟨owner, howner, hof⟩ := List.mem_map.mp (h.owned source hsource)
      refine List.mem_map.mpr ⟨owner, List.mem_filter.mpr ⟨howner, ?_⟩, hof⟩
      rw [hof]
      exact hne
    · intro source hsource
      exact h.copies source (List.mem_of_mem_filter hsource)
    · intro hprimary other hother
      obtain ⟨hother, hne⟩ := List.mem_filter.mp hother
      have hsources : (db.removeIssuance issuance.id).sourcesOf other.id = db.sourcesOf other.id := by
        unfold Register.sourcesOf Register.removeIssuance
        rw [List.filter_filter]
        apply List.filter_congr
        intro source _
        by_cases hof : source.issuanceId = other.id
        · simpa [hof] using hne
        · simp [hof]
      rw [hsources]
      exact hprimary other hother
  · exact ⟨h, id⟩
  · refine ⟨h.saveIssuance (retired issuance), fun hprimary => ?_⟩
    exact (onePrimary_iff hprimary hmem (retired issuance) rfl rfl fun _ _ => rfl).mpr (hprimary issuance hmem)

theorem decidedRow_url {decision : RegisterDecision} {dto : DecisionDto} (h : decidedRow db id decision dto = .ok written) :
    ∃ issuance, db.findIssuance id = .ok issuance ∧ written.id = issuance.id ∧ written.source_url = issuance.source_url := by
  simp only [decidedRow, bind_eq_ok] at h
  obtain ⟨issuance, hfound, _, -, _, -, _, -, domains, -, _, -, h⟩ := h
  cases h
  exact ⟨issuance, hfound, rfl, rfl⟩

theorem decideRegisterInclusion_primary {decision : RegisterDecision} {dto : DecisionDto} (h : Keyed db)
    (hcall : decideRegisterInclusion id decision dto db = .ok () db') : Keyed db' ∧ (OnePrimary db → OnePrimary db') := by
  obtain ⟨written, hdecided, rfl⟩ := decideRegisterInclusion_returns hcall
  obtain ⟨issuance, hfound, hid, hurl⟩ := decidedRow_url hdecided
  obtain ⟨hmem, rfl⟩ := findIssuance_eq_ok hfound
  refine ⟨h.saveIssuance written, fun hprimary => ?_⟩
  refine (onePrimary_iff hprimary hmem written hid rfl fun _ _ => rfl).mpr ?_
  rw [hurl]
  exact hprimary issuance hmem

end

/-- The domains are no part of the property. -/
theorem primary_of_domains (h : Keyed db) {domains : List ComplianceDomain} (hdb : db' = { db with domains }) :
    Keyed db' ∧ (OnePrimary db → OnePrimary db') := by
  subst hdb
  exact ⟨h.of_ids rfl rfl, id⟩

/-- A completed call keeps the keys, and one primary source exactly if the URL that it stores fits. -/
theorem completedCall_primary {l : Services × Call} (h : Keyed db) (hs : completedCalls.step db l db') :
    Keyed db' ∧ (OnePrimary db → (OnePrimary db' ↔ KeepsPrimary db l.2)) := by
  obtain ⟨s, call⟩ := l
  have always (hkeeps : Keyed db' ∧ (OnePrimary db → OnePrimary db')) :
      Keyed db' ∧ (OnePrimary db → (OnePrimary db' ↔ True)) :=
    ⟨hkeeps.1, fun hprimary => iff_true_intro (hkeeps.2 hprimary)⟩
  cases call with
  | createIssuance dto => exact createIssuance_primary h hs
  | updateIssuance id dto => exact updateIssuance_primary h hs
  | uploadAttachment id file => exact uploadAttachment_primary h hs
  | deleteIssuance id => exact always (deleteIssuance_primary h hs)
  | decideRegisterInclusion id decision dto => exact always (decideRegisterInclusion_primary h hs)
  | addSource id dto => exact always (addSource_primary h hs)
  | deleteAttachment id => exact always (deleteAttachment_primary h hs)
  | createDomain dto =>
    have hcall : createDomain dto db = .ok () db' := hs
    simp only [createDomain, returns_bind, returns_reads, returns_modify] at hcall
    obtain ⟨domain, _, ⟨-, rfl⟩, hdb⟩ := hcall
    exact always (primary_of_domains h hdb)
  | updateDomain id dto =>
    have hcall : updateDomain id dto db = .ok () db' := hs
    simp only [updateDomain, returns_bind, returns_reads, returns_modify] at hcall
    obtain ⟨domain, _, ⟨-, rfl⟩, hdb⟩ := hcall
    exact always (primary_of_domains h hdb)

theorem keyed_of_init (h : completedCalls.init db) : Keyed db ∧ OnePrimary db := by
  obtain ⟨hissuances, hsources⟩ := h
  refine ⟨⟨?_, ?_, ?_, ?_⟩, ?_⟩
  · simp [hissuances]
  · simp [hsources]
  · simp [hsources]
  · simp [hsources]
  · intro issuance hmem
    rw [hissuances] at hmem
    cases hmem

def linkedCircular (source_url : String) : CreateIssuanceDto where
  issuance_number := some (.string "MC-4")
  source_url := some (.string source_url)

/-- A circular with a URL. -/
def linked (source_url : String) : Register := leaves (createIssuance desk (linkedCircular source_url)) {}

theorem run_linked (source_url : String)
    (h : returned (createIssuance desk (linkedCircular source_url)) {} = true) :
    Run completedCalls [⟨{}, (desk, .createIssuance (linkedCircular source_url)), linked source_url⟩] (linked source_url) :=
  (Run.init (S := completedCalls) (a := {}) ⟨rfl, rfl⟩).step (returns_of_returned h)

theorem fitsSources_of_trimmed (text : String) (htrim : trim text = text) (hsome : text ≠ "") :
    FitsSources db id (.string text) ↔ text = withoutSlash text := by
  have htrimmed : trimmed (some (.string text)) = .ok (some text) := by
    show Except.ok (if trim text = "" then none else some (trim text)) = _
    rw [htrim, if_neg hsome]
  unfold FitsSources
  rw [htrimmed]
  exact Json.string.injEq _ _ ▸ Iff.rfl

def archiveCopy : AddSourceDto where
  sourceType := some (.string "reference_link")
  url := some (.string "https://archive.gov.ph/mc-4/")
  isPrimary := some (.bool true)

/-- A circular with a second source, which is the primary one. -/
def archived : Register := leaves (addSource desk 1 archiveCopy) (linked "https://dict.gov.ph/mc-4")

theorem addSource_archived : completedCalls.step (linked "https://dict.gov.ph/mc-4") (desk, .addSource 1 archiveCopy) archived :=
  returns_of_returned (by decide +kernel)

theorem fits_linked : FitsSources {} 1 (.string "https://dict.gov.ph/mc-4") := by
  have hslash : "https://dict.gov.ph/mc-4" = withoutSlash "https://dict.gov.ph/mc-4" := by decide +kernel
  have htrim : trim "https://dict.gov.ph/mc-4" = "https://dict.gov.ph/mc-4" := by decide +kernel
  exact (fitsSources_of_trimmed _ htrim (by decide)).mpr hslash

end ComplianceHub.References
