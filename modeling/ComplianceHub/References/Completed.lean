import ComplianceHub.References.Inclusion

/-!
# Calls that return

What the tables are after a call that has returned: `createIssuance_returns`, `updateIssuance_returns`,
`deleteIssuance_returns`, `decideRegisterInclusion_returns`, `uploadAttachment_returns`, `deleteAttachment_returns`,
`addSource_returns`.

* `Register.insertIssuance`, `Register.relate` : the writes that they share;
* `mem_saveIssuance_iff`, `nodup_insertIssuance`, … : what a write leaves.
-/

namespace ComplianceHub.References

open ComplianceHub.Lib

variable {s : Services} {db db' : Register}

/-- A new issuance. -/
def Register.insertIssuance (db : Register) (row : Issuance) : Register := { db with issuances := db.issuances ++ [row] }

/-- The amendments of an issuance follow its columns. -/
def Register.relate (db : Register) (id : Nat) (amended : Option String) : Register :=
  { db with relationships := syncedRelationships db id amended }

theorem createIssuance_returns {dto : CreateIssuanceDto} (h : createIssuance s dto db = .ok () db') :
    ∃ row catalog amended url reason, createdRow s db dto = .ok (row, catalog) ∧ amendedNumber catalog = .ok amended ∧
      trimmed (some catalog.source_url) = .ok url ∧ trimmed dto.status_reason = .ok reason ∧
      db' = syncedSources s row.id url ((db.insertIssuance row).relate row.id amended) := by
  unfold createIssuance syncLegacyAmendmentRelationship syncPrimaryUrlSource at h
  simp only [returns_bind, returns_reads, returns_modify, returns_pure] at h
  obtain ⟨⟨row, catalog⟩, _, ⟨hrow, rfl⟩, _, _, rfl, _, _, ⟨amended, _, ⟨hamended, rfl⟩, rfl⟩, _, _,
    ⟨url, _, ⟨hurl, rfl⟩, rfl⟩, reason, _, ⟨hreason, rfl⟩, -, rfl⟩ := h
  exact ⟨row, catalog, amended, url, reason, hrow, hamended, hurl, hreason, rfl⟩

theorem updateIssuance_returns {id : Nat} {dto : IssuanceDto} (h : updateIssuance s id dto db = .ok () db') :
    ∃ row catalog amended url, updatedRow s db id dto = .ok (row, catalog) ∧ amendedNumber catalog = .ok amended ∧
      trimmed (some catalog.source_url) = .ok url ∧
      db' = syncedSources s id url ((db.saveIssuance row).relate id amended) := by
  unfold updateIssuance syncLegacyAmendmentRelationship syncPrimaryUrlSource at h
  simp only [returns_bind, returns_reads, returns_modify] at h
  obtain ⟨⟨row, catalog⟩, _, ⟨hrow, rfl⟩, _, _, rfl, _, _, ⟨amended, _, ⟨hamended, rfl⟩, rfl⟩, url, _, ⟨hurl, rfl⟩, rfl⟩ := h
  exact ⟨row, catalog, amended, url, hrow, hamended, hurl, rfl⟩

theorem deleteIssuance_returns {id : Nat} (h : deleteIssuance id db = .ok () db') :
    ∃ issuance, db.findIssuance id = .ok issuance ∧ db' =
      if db.isUnusedDraft issuance then db.removeIssuance id
      else if issuance.lifecycle_status = "retired" then db
      else db.saveIssuance (retired issuance) := by
  unfold deleteIssuance at h
  simp only [returns_bind, returns_reads, returns_modify] at h
  obtain ⟨issuance, _, ⟨hfound, rfl⟩, rfl⟩ := h
  exact ⟨issuance, hfound, rfl⟩

theorem decideRegisterInclusion_returns {issuanceId : Nat} {decision : RegisterDecision} {dto : DecisionDto}
    (h : decideRegisterInclusion issuanceId decision dto db = .ok () db') :
    ∃ row, decidedRow db issuanceId decision dto = .ok row ∧ db' = db.saveIssuance row := by
  unfold decideRegisterInclusion at h
  simp only [returns_bind, returns_reads, returns_modify] at h
  obtain ⟨row, _, ⟨hrow, rfl⟩, rfl⟩ := h
  exact ⟨row, hrow, rfl⟩

theorem uploadAttachment_returns {id : Nat} {file : Option File} (h : uploadAttachment s id file db = .ok () db') :
    ∃ issuance attachment duplicate, attachable s db id file = .ok (issuance, attachment, duplicate) ∧
      db' = attached s issuance attachment duplicate db := by
  unfold uploadAttachment at h
  simp only [returns_bind, returns_reads, returns_modify] at h
  obtain ⟨⟨issuance, attachment, duplicate⟩, _, ⟨hfound, rfl⟩, rfl⟩ := h
  exact ⟨issuance, attachment, duplicate, hfound, rfl⟩

theorem deleteAttachment_returns {id : Nat} (h : deleteAttachment s id db = .ok () db') :
    ∃ issuance source, detachable s db id = .ok (issuance, source) ∧
      db' = promoteFallback s id ((db.saveIssuance { issuance with attachment := none }).removeSource source) := by
  unfold deleteAttachment at h
  simp only [returns_bind, returns_reads, returns_modify] at h
  obtain ⟨⟨issuance, source⟩, _, ⟨hfound, rfl⟩, rfl⟩ := h
  exact ⟨issuance, source, hfound, rfl⟩

theorem addSource_returns {issuanceId : Nat} {dto : AddSourceDto} (h : addSource s issuanceId dto db = .ok () db') :
    ∃ url isPrimary source, addable db issuanceId dto = .ok (url, isPrimary) ∧
      addedSource s issuanceId url isPrimary dto = .ok source ∧
      db' = if isPrimary then ((db.mapSources (clearPrimary issuanceId s.now)).insertSource source).writeUrl issuanceId url
        else db.insertSource source := by
  unfold addSource at h
  simp only [returns_bind, returns_reads, returns_modify] at h
  obtain ⟨⟨url, isPrimary⟩, _, ⟨haddable, rfl⟩, _, _, rfl, source, _, ⟨hsource, rfl⟩, rfl⟩ := h
  refine ⟨url, isPrimary, source, haddable, hsource, ?_⟩
  cases isPrimary <;> rfl

/-! ## What a write leaves -/

@[simp] theorem syncedSources_issuances (id : Nat) (url : Option String) :
    (syncedSources s id url db).issuances = db.issuances := by
  unfold syncedSources
  cases url with
  | none =>
    dsimp only
    split <;> rfl
  | some url =>
    dsimp only
    split <;> rfl

theorem ids_saveIssuance (row : Issuance) :
    (db.saveIssuance row).issuances.map Issuance.id = db.issuances.map Issuance.id :=
  map_column_of_change fun _ _ hid => hid.symm

/-- A row that is saved over one of the table is in it. -/
theorem mem_saveIssuance_self {issuance row : Issuance} (hmem : issuance ∈ db.issuances) (hid : row.id = issuance.id) :
    row ∈ (db.saveIssuance row).issuances :=
  List.mem_map.mpr ⟨issuance, hmem, if_pos hid.symm⟩

/-- The other rows stay. -/
theorem mem_saveIssuance_iff {row other : Issuance} : other ∈ (db.saveIssuance row).issuances ↔
    (other = row ∧ ∃ issuance ∈ db.issuances, issuance.id = row.id) ∨ other ∈ db.issuances ∧ other.id ≠ row.id := by
  constructor
  · intro h
    rcases mem_change h with ⟨old, hold, hid, rfl⟩ | ⟨hmem, hid⟩
    · exact .inl ⟨rfl, old, hold, hid⟩
    · exact .inr ⟨hmem, hid⟩
  · rintro (⟨rfl, issuance, hmem, hid⟩ | ⟨hmem, hid⟩)
    · exact mem_saveIssuance_self hmem hid.symm
    · exact List.mem_map.mpr ⟨other, hmem, if_neg hid⟩

theorem nodup_insertIssuance {row : Issuance} (h : (db.issuances.map Issuance.id).Nodup)
    (hid : row.id = nextId (db.issuances.map Issuance.id)) : ((db.insertIssuance row).issuances.map Issuance.id).Nodup := by
  refine nodup_column_concat h fun other hother hsame => nextId_notMem (db.issuances.map Issuance.id) ?_
  rw [← hid, ← hsame]
  exact List.mem_map_of_mem hother

/-- A new issuance has an id of its own. -/
theorem ne_nextId {issuance : Issuance} (h : issuance ∈ db.issuances) : issuance.id ≠ nextId (db.issuances.map Issuance.id) := by
  intro hid
  refine nextId_notMem (db.issuances.map Issuance.id) ?_
  rw [← hid]
  exact List.mem_map_of_mem h

/-- A text that is left after trimming. -/
theorem trimmed_eq_some {value : Json} {url : String} (h : trimmed (some value) = .ok (some url)) :
    ∃ text, value = .string text ∧ url = trim text := by
  cases value with
  | string text =>
    have h : Except.ok (if trim text = "" then none else some (trim text)) = Except.ok (some url) := h
    split_ifs at h
    · cases h
    · cases h
      exact ⟨text, rfl, rfl⟩
  | null => cases h
  | bool b => cases h
  | number n => cases h
  | array items => cases h
  | object fields => cases h

end ComplianceHub.References
