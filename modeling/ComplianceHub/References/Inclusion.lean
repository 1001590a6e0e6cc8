import ComplianceHub.Lib.Rows
import ComplianceHub.Lib.Run
import ComplianceHub.References.Register

/-!
# What the register includes

* `Call`, `registering` : the calls that write the register, in any order;
* `JustifiedIn`, `Justified` : every included issuance is active, applicable, in an active domain, and has a source;
* `Supports` : a change that keeps what justifies; `Sound` : the property with the keys that its proof rests on;
* `deactivates_unchecked` : a domain is deactivated by a value that is falsy, and not `false`;
* `Meets` : neither such a deactivation nor an inclusion on a blank URL;
* `inclusions_are_justified` : runs of calls that meet this include with cause.
-/

namespace ComplianceHub.References

open ComplianceHub.Lib

inductive Call where
  | createIssuance (dto : CreateIssuanceDto)
  | updateIssuance (id : Nat) (dto : IssuanceDto)
  | deleteIssuance (id : Nat)
  | decideRegisterInclusion (issuanceId : Nat) (decision : RegisterDecision) (dto : DecisionDto)
  | createDomain (dto : DomainDto)
  | updateDomain (id : Nat) (dto : DomainDto)
  | addSource (issuanceId : Nat) (dto : AddSourceDto)
  | uploadAttachment (id : Nat) (file : Option File)
  | deleteAttachment (id : Nat)

def Call.run (s : Services) : Call → RegisterM Unit
  | createIssuance dto => References.createIssuance s dto
  | updateIssuance id dto => References.updateIssuance s id dto
  | deleteIssuance id => References.deleteIssuance id
  | decideRegisterInclusion issuanceId decision dto => References.decideRegisterInclusion issuanceId decision dto
  | createDomain dto => References.createDomain dto
  | updateDomain id dto => References.updateDomain id dto
  | addSource issuanceId dto => References.addSource s issuanceId dto
  | uploadAttachment id file => References.uploadAttachment s id file
  | deleteAttachment id => References.deleteAttachment s id

/-- Calls one after the other, over a register that has no issuance yet. A call that raises has taken place too. -/
def registering : System Register (Services × Call) where
  init db := db.issuances = [] ∧ (db.domains.map ComplianceDomain.id).Nodup ∧ (db.sources.map IssuanceSource.id).Nodup
  step db l db' := db' = leaves (l.2.run l.1) db

/-! ## The property -/

structure JustifiedIn (db : Register) (issuance : Issuance) : Prop where
  active : issuance.lifecycle_status = "active"
  applicable : isApplicable issuance.applicability_status = true
  domain : ∃ domain ∈ db.domains, domain.id ∈ issuance.domainIds ∧ domain.isActive = true
  source : (∃ source ∈ db.sources, source.issuanceId = issuance.id) ∨
    ∃ url, issuance.source_url = some url ∧ trim url ≠ ""

/-- Register inclusion is justified. -/
def Justified (db : Register) : Prop :=
  ∀ issuance ∈ db.issuances, issuance.register_decision = "included" → JustifiedIn db issuance

/-- An active domain and a source stay what they are. -/
structure Supports (db db' : Register) : Prop where
  domains : ∀ domain ∈ db.domains, domain.isActive = true →
    ∃ domain' ∈ db'.domains, domain'.id = domain.id ∧ domain'.isActive = true
  sources : ∀ source ∈ db.sources, ∃ source' ∈ db'.sources, source'.issuanceId = source.issuanceId

/-- The property, and the keys of the tables that it refers to. -/
structure Sound (db : Register) : Prop where
  justified : Justified db
  domainIds : (db.domains.map ComplianceDomain.id).Nodup
  sourceIds : (db.sources.map IssuanceSource.id).Nodup

variable {s : Services} {db db' : Register}

theorem JustifiedIn.mono {issuance : Issuance} (h : JustifiedIn db issuance) (hs : Supports db db') :
    JustifiedIn db' issuance where
  active := h.active
  applicable := h.applicable
  domain := by
    obtain ⟨domain, hmem, hid, hactive⟩ := h.domain
    obtain ⟨domain', hmem', hid', hactive'⟩ := hs.domains domain hmem hactive
    exact ⟨domain', hmem', hid' ▸ hid, hactive'⟩
  source := by
    refine h.source.imp_left ?_
    rintro ⟨source, hmem, hid⟩
    obtain ⟨source', hmem', hid'⟩ := hs.sources source hmem
    exact ⟨source', hmem', hid'.trans hid⟩

/-- Domains and sources of before are still there. -/
theorem Supports.of_subset (hd : db.domains ⊆ db'.domains) (hs : db.sources ⊆ db'.sources) : Supports db db' where
  domains domain hmem hactive := ⟨domain, hd hmem, rfl, hactive⟩
  sources source hmem := ⟨source, hs hmem, rfl⟩

/-! ## Writes -/

/-- Issuances that are not included need no cause, others keep the one they have. -/
theorem Justified.step (h : Justified db) (hs : Supports db db')
    (hrows : ∀ row ∈ db'.issuances, row ∈ db.issuances ∨ (row.register_decision = "included" → JustifiedIn db' row)) :
    Justified db' := by
  intro row hmem hincluded
  rcases hrows row hmem with hold | hnew
  · exact (h row hold hincluded).mono hs
  · exact hnew hincluded

theorem mem_saveIssuance {issuance row : Issuance} (h : row ∈ (db.saveIssuance issuance).issuances) :
    row ∈ db.issuances ∨ row = issuance := by
  obtain ⟨old, hold, rfl⟩ := List.mem_map.mp h
  split_ifs
  · exact .inr rfl
  · exact .inl hold

theorem supports_saveIssuance (issuance : Issuance) : Supports db (db.saveIssuance issuance) :=
  .of_subset (List.Subset.refl _) (List.Subset.refl _)

theorem Sound.saveIssuance (h : Sound db) {issuance : Issuance}
    (hrow : issuance.register_decision = "included" → JustifiedIn db issuance) : Sound (db.saveIssuance issuance) where
  justified := by
    refine h.justified.step (supports_saveIssuance issuance) fun row hmem => (mem_saveIssuance hmem).imp_right ?_
    rintro rfl hincluded
    exact (hrow hincluded).mono (supports_saveIssuance row)
  domainIds := h.domainIds
  sourceIds := h.sourceIds

/-- Nothing but the sources changes, and each stays a source of its issuance. -/
theorem Sound.mapSources (h : Sound db) {f : IssuanceSource → IssuanceSource} (hid : ∀ source, (f source).id = source.id)
    (hissuance : ∀ source ∈ db.sources, (f source).issuanceId = source.issuanceId) : Sound (db.mapSources f) where
  justified := by
    refine h.justified.step ⟨fun domain hmem hactive => ⟨domain, hmem, rfl, hactive⟩, fun source hmem => ?_⟩
      fun row hmem => .inl hmem
    exact ⟨f source, List.mem_map_of_mem hmem, hissuance source hmem⟩
  domainIds := h.domainIds
  sourceIds := by
    show ((db.sources.map f).map IssuanceSource.id).Nodup
    rw [List.map_map, show IssuanceSource.id ∘ f = IssuanceSource.id from funext hid]
    exact h.sourceIds

theorem IssuanceSource.saved_id {row source : IssuanceSource} {now : Int} (h : source.id = row.id) :
    (row.saved source now).id = row.id := by
  unfold IssuanceSource.saved
  split_ifs
  · rfl
  · exact h

theorem IssuanceSource.saved_issuanceId {row source : IssuanceSource} {now : Int}
    (h : source.issuanceId = row.issuanceId) : (row.saved source now).issuanceId = row.issuanceId := by
  unfold IssuanceSource.saved
  split_ifs
  · rfl
  · exact h

/-- A source is written over the row of its key. -/
theorem Sound.saveSource (h : Sound db) {row source : IssuanceSource} (hrow : row ∈ db.sources)
    (hid : source.id = row.id) (hissuance : source.issuanceId = row.issuanceId) (now : Int) :
    Sound (db.saveSource source now) := by
  refine h.mapSources (fun other => ?_) fun other hother => ?_
  · split_ifs with heq
    · exact IssuanceSource.saved_id heq.symm
    · rfl
  · split_ifs with heq
    · have hsame : other = row := List.inj_on_of_nodup_map h.sourceIds hother hrow (heq.trans hid)
      subst hsame
      exact IssuanceSource.saved_issuanceId hissuance
    · rfl

theorem le_of_mem {ids : List Nat} {id : Nat} (h : id ∈ ids) : id ≤ ids.foldr max 0 := by
  induction ids with
  | nil => cases h
  | cons first rest ih =>
    rw [List.foldr_cons]
    rcases List.mem_cons.mp h with rfl | h
    · exact Nat.le_max_left _ _
    · exact (ih h).trans (Nat.le_max_right _ _)

theorem nextId_notMem (ids : List Nat) : nextId ids ∉ ids := by
  intro h
  have hle := le_of_mem h
  unfold nextId at hle
  omega

theorem Sound.insertSource (h : Sound db) (source : IssuanceSource) : Sound (db.insertSource source) where
  justified := by
    refine h.justified.step (.of_subset (List.Subset.refl _) ?_) fun row hmem => .inl hmem
    exact List.subset_append_left _ _
  domainIds := h.domainIds
  sourceIds := by
    show ((db.sources ++ [_]).map IssuanceSource.id).Nodup
    refine nodup_column_concat h.sourceIds fun row hrow hid => nextId_notMem (db.sources.map IssuanceSource.id) ?_
    exact List.mem_map.mpr ⟨row, hrow, hid⟩

@[simp] theorem clearPrimary_id (id : Nat) (now : Int) (source : IssuanceSource) :
    (clearPrimary id now source).id = source.id := by
  unfold clearPrimary
  split_ifs <;> rfl

@[simp] theorem clearPrimary_issuanceId (id : Nat) (now : Int) (source : IssuanceSource) :
    (clearPrimary id now source).issuanceId = source.issuanceId := by
  unfold clearPrimary
  split_ifs <;> rfl

theorem Sound.clearPrimary (h : Sound db) (id : Nat) (now : Int) :
    Sound (db.mapSources (References.clearPrimary id now)) :=
  h.mapSources (clearPrimary_id id now) fun source _ => clearPrimary_issuanceId id now source

theorem Sound.clearUrlPrimary (h : Sound db) (id : Nat) (now : Int) :
    Sound (db.mapSources (References.clearUrlPrimary id now)) := by
  refine h.mapSources (fun source => ?_) fun source _ => ?_
  all_goals
    unfold References.clearUrlPrimary
    split_ifs
  · exact clearPrimary_id id now source
  · rfl
  · exact clearPrimary_issuanceId id now source
  · rfl

/-- The flags are cleared, and a source is written. -/
theorem Sound.clear_save (h : Sound db) {row source : IssuanceSource} (hrow : row ∈ db.sources)
    (hid : source.id = row.id) (hissuance : source.issuanceId = row.issuanceId) (id : Nat) (now : Int) :
    Sound ((db.mapSources (References.clearPrimary id now)).saveSource source now) := by
  refine (h.clearPrimary id now).saveSource (List.mem_map_of_mem hrow) ?_ ?_ now
  · rw [clearPrimary_id]
    exact hid
  · rw [clearPrimary_issuanceId]
    exact hissuance

theorem mem_of_mem_sourcesOf {id : Nat} {source : IssuanceSource} (h : source ∈ db.sourcesOf id) :
    source ∈ db.sources ∧ source.issuanceId = id := by
  rw [Register.sourcesOf, List.mem_filter, decide_eq_true_eq] at h
  exact h

theorem mem_of_latest {time : IssuanceSource → Int} {sources : List IssuanceSource} {source : IssuanceSource}
    (h : latest time sources = some source) : source ∈ sources :=
  List.mem_of_find?_eq_some h

theorem Sound.syncedSources (h : Sound db) (s : Services) (id : Nat) (url : Option String) :
    Sound (syncedSources s id url db) := by
  unfold References.syncedSources
  cases url with
  | none =>
    have hcleared := h.clearUrlPrimary id s.now
    dsimp only
    split
    · exact hcleared
    · rename_i uploaded huploaded
      obtain ⟨hmem, -⟩ := mem_of_mem_sourcesOf (List.mem_of_mem_filter (mem_of_latest huploaded))
      refine hcleared.clear_save hmem ?_ ?_ id s.now <;> rfl
  | some url =>
    dsimp only
    split
    · rename_i source hsource
      obtain ⟨hmem, -⟩ := mem_of_mem_sourcesOf (List.mem_of_find?_eq_some hsource)
      refine h.clear_save hmem ?_ ?_ id s.now <;> rfl
    · exact (h.clearPrimary id s.now).insertSource _

/-- The tables that the property is about have not changed. -/
theorem Sound.relate (h : Sound db) (relationships : List IssuanceRelationship) : Sound { db with relationships } :=
  ⟨h.justified.step (.of_subset (List.Subset.refl _) (List.Subset.refl _)) fun _ hmem => .inl hmem, h.domainIds,
    h.sourceIds⟩

theorem keeps_syncLegacyAmendmentRelationship (id : Nat) (catalog : Catalog) :
    Keeps Sound (syncLegacyAmendmentRelationship id catalog) :=
  triple_bind (triple_reads (fun _ _ h _ => h) fun _ h => h) fun _ => triple_modify fun _ h => h.relate _

theorem keeps_syncPrimaryUrlSource (s : Services) (id : Nat) (catalog : Catalog) :
    Keeps Sound (syncPrimaryUrlSource s id catalog) :=
  triple_bind (triple_reads (fun _ _ h _ => h) fun _ h => h) fun _ => triple_modify fun _ h => h.syncedSources s id _

/-! ## What the checks let through -/

theorem givenThat_eq_ok {needed : Bool} {checks : Except HttpException Unit} {u : Unit} :
    givenThat needed checks = .ok u ↔ (needed = true → checks = .ok ()) := by
  unfold givenThat
  cases needed <;> simp

theorem assertText_eq_ok {value : Option Json} {e : HttpException} {u : Unit} (h : assertText value e = .ok u) :
    ∃ text, value = some (.string text) ∧ trim text ≠ "" := by
  simp only [assertText, bind_eq_ok, check_eq_ok] at h
  obtain ⟨text, htext, hsome⟩ := h
  unfold trimmed at htext
  split at htext
  · cases htext
    cases hsome
  · cases htext
    cases hsome
  · rename_i text'
    refine ⟨text', rfl, fun hblank => ?_⟩
    rw [if_pos hblank] at htext
    cases htext
    cases hsome
  · cases htext

/-- A text, or a value that is falsy. -/
def Plain (value : Json) : Prop := value.truthy = true → ∃ text, value = .string text

theorem plain_of_assertAllowed {value : Option Json} {allowed : List String} {label : String} {u : Unit}
    (h : assertAllowed value allowed label = .ok u) {fallback : Json} (hfallback : Plain fallback) :
    Plain (value.getD fallback) := by
  unfold assertAllowed at h
  rw [check_eq_ok] at h
  cases value with
  | none => exact hfallback
  | some value =>
    intro htruthy
    obtain ⟨text, -, htext⟩ := List.any_eq_true.mp (h htruthy)
    exact ⟨text, Json.eq_of_isText htext⟩

/-- What a required column holds was that text, or a falsy value. -/
theorem requiredText_eq_ok {value : Json} {text : String} (h : requiredText s value = .ok text) (hplain : Plain value)
    (htext : text ≠ "0") : value = .string text := by
  cases value with
  | null => cases h
  | bool b =>
    cases b with
    | false =>
      cases h
      exact absurd rfl htext
    | true =>
      obtain ⟨_, h⟩ := hplain rfl
      cases h
  | number n =>
    by_cases hn : n = 0
    · subst hn
      have hzero : numberText 0 = "0" := by decide +kernel
      have hcolumn : requiredText s (.number 0) = .ok (numberText 0) := rfl
      rw [hcolumn, hzero] at h
      cases h
      exact absurd rfl htext
    · obtain ⟨_, h⟩ := hplain (decide_eq_true hn)
      cases h
  | string t =>
    cases h
    rfl
  | array items =>
    obtain ⟨_, h⟩ := hplain rfl
    cases h
  | object fields =>
    obtain ⟨_, h⟩ := hplain rfl
    cases h

theorem resolveDomains_eq_ok {domainIds : Option Json} {allowed : List Nat} {domains : List ComplianceDomain}
    (h : resolveDomains db domainIds allowed = .ok domains) :
    (∀ domain ∈ domains, domain ∈ db.domains ∧ (domain.isActive = true ∨ domain.id ∈ allowed)) := by
  unfold resolveDomains at h
  split at h
  · cases h
    simp
  · simp only [bind_eq_ok, check_eq_ok] at h
    obtain ⟨_, ⟨-, hactive⟩, h⟩ := h
    cases h
    intro domain hmem
    exact ⟨List.mem_of_mem_filter hmem, hactive domain hmem⟩
  · split_ifs at h
    cases h
    simp

theorem reassignedDomains_eq_ok {domainIds : Option Json} {domains domains' : List ComplianceDomain}
    (h : reassignedDomains db domainIds domains = .ok domains') (hsub : domains ⊆ db.domains) : domains' ⊆ db.domains := by
  unfold reassignedDomains at h
  split at h
  · cases h
    exact hsub
  · intro domain hmem
    exact (resolveDomains_eq_ok h domain hmem).1

theorem domainsOf_subset (issuance : Issuance) : db.domainsOf issuance ⊆ db.domains :=
  List.filter_sublist.subset

/-- The columns hold the texts of the issuance in memory. -/
theorem columns_eq_ok {catalog : Catalog} {row issuance : Issuance} (h : catalog.columns s row = .ok issuance)
    (hplain : Plain catalog.register_decision) :
    issuance.id = row.id ∧ (∀ text, catalog.lifecycle_status = .string text → issuance.lifecycle_status = text) ∧
      (∀ text, catalog.applicability_status = .string text → issuance.applicability_status = text) ∧
      (issuance.register_decision = "included" → catalog.register_decision = .string "included") ∧
      (∀ url, catalog.source_url = .string url → issuance.source_url = some url) ∧
      issuance.domainIds = catalog.domains.map ComplianceDomain.id := by
  simp only [Catalog.columns, bind_eq_ok] at h
  obtain ⟨lifecycle, hlifecycle, applicability, happlicability, decision, hdecision, _, -, _, -, _, -, url, hurl, h⟩ := h
  cases h
  refine ⟨rfl, ?_, ?_, ?_, ?_, rfl⟩
  · intro text htext
    rw [htext] at hlifecycle
    exact (Except.ok.inj hlifecycle).symm
  · intro text htext
    rw [htext] at happlicability
    exact (Except.ok.inj happlicability).symm
  · rintro rfl
    exact requiredText_eq_ok hdecision hplain (by decide)
  · intro text htext
    rw [htext] at hurl
    exact (Except.ok.inj hurl).symm

/-- An active domain among those that are linked. -/
theorem exists_active_domain {domains : List ComplianceDomain} (hany : domains.any ComplianceDomain.isActive = true)
    (hsub : domains ⊆ db.domains) :
    ∃ domain ∈ db.domains, domain.id ∈ domains.map ComplianceDomain.id ∧ domain.isActive = true := by
  obtain ⟨domain, hmem, hactive⟩ := List.any_eq_true.mp hany
  exact ⟨domain, hsub hmem, List.mem_map_of_mem hmem, hactive⟩

/-! ## Creation and update -/

theorem plain_string (text : String) : Plain (.string text) := fun _ => ⟨text, rfl⟩

theorem createdRow_eq_ok {dto : CreateIssuanceDto} {r : Issuance × Catalog} (h : createdRow s db dto = .ok r)
    (hincluded : r.1.register_decision = "included") : JustifiedIn db r.1 := by
  simp only [createdRow, createdCatalog, bind_eq_ok] at h
  obtain ⟨catalog, ⟨_, -, domains, hdomains, _, -, _, hincludable, hcatalog⟩, _, -, _, -, _, -, row, hrow, h⟩ := h
  cases h
  cases hcatalog
  obtain ⟨-, hlifecycle, happlicability, hdecision, hurl, hids⟩ := columns_eq_ok hrow (plain_string _)
  have hdecided : orElse dto.register_decision "pending" = "included" := Json.string.inj (hdecision hincluded)
  have hchecks := givenThat_eq_ok.mp hincludable (decide_eq_true hdecided)
  simp only [assertCreatable, bind_eq_ok, check_eq_ok] at hchecks
  obtain ⟨_, hactive, _, happlicable, _, hsome, hsource⟩ := hchecks
  obtain ⟨url, hurl', htrim⟩ := assertText_eq_ok hsource
  obtain ⟨domain, hmem⟩ := List.exists_mem_of_ne_nil domains hsome
  refine ⟨(hlifecycle _ rfl).trans hactive, ?_, ?_, .inr ⟨url, hurl url ?_, htrim⟩⟩
  · rw [happlicability _ rfl]
    exact happlicable
  · obtain ⟨hdb, hdomain⟩ := resolveDomains_eq_ok hdomains domain hmem
    refine ⟨domain, hdb, ?_, hdomain.resolve_right (List.not_mem_nil)⟩
    rw [hids]
    exact List.mem_map_of_mem hmem
  · rw [hurl']
    rfl

theorem plain_decisionAfter (previous next : String) {decision : Json} (h : Plain decision) :
    Plain (decisionAfter previous next decision) := by
  unfold decisionAfter
  split_ifs
  · exact plain_string _
  · exact plain_string _
  · exact h

theorem assertIncluded_eq_ok {id : Nat} {catalog : Catalog} {row issuance : Issuance} {u : Unit}
    (h : assertIncluded db id catalog = .ok u) (hrow : catalog.columns s row = .ok issuance) (hid : row.id = id)
    (hplain : Plain catalog.register_decision) (hsub : catalog.domains ⊆ db.domains) : JustifiedIn db issuance := by
  obtain ⟨hissuance, hlifecycle, happlicability, -, hurl, hids⟩ := columns_eq_ok hrow hplain
  simp only [assertIncluded, bind_eq_ok, check_eq_ok] at h
  obtain ⟨_, hactive, _, happlicable, _, hany, hsource⟩ := h
  refine ⟨hlifecycle _ (Json.eq_of_isText hactive), ?_, ?_, ?_⟩
  · rcases Bool.or_eq_true_iff.mp happlicable with h | h <;>
    · rw [happlicability _ (Json.eq_of_isText h)]
      decide
  · rw [hids]
    exact exists_active_domain hany hsub
  · by_cases hnone : db.sourcesOf id = []
    · obtain ⟨url, hurl', htrim⟩ := assertText_eq_ok (givenThat_eq_ok.mp hsource (decide_eq_true hnone))
      exact .inr ⟨url, hurl url (Option.some.inj hurl'), htrim⟩
    · obtain ⟨source, hmem⟩ := List.exists_mem_of_ne_nil _ hnone
      obtain ⟨hdb, hof⟩ := mem_of_mem_sourcesOf hmem
      exact .inl ⟨source, hdb, by rw [hof, hissuance, hid]⟩

theorem validateArchitectureFields_eq_ok {dto : IssuanceDto} {u : Unit} (h : validateArchitectureFields dto = .ok u)
    {fallback : Json} (hfallback : Plain fallback) : Plain (dto.register_decision.getD fallback) := by
  simp only [validateArchitectureFields, bind_eq_ok] at h
  obtain ⟨_, -, _, -, _, -, _, hdecision, -⟩ := h
  exact plain_of_assertAllowed hdecision hfallback

theorem findIssuance_eq_ok {id : Nat} {issuance : Issuance} (h : db.findIssuance id = .ok issuance) :
    issuance ∈ db.issuances ∧ issuance.id = id := by
  unfold Register.findIssuance at h
  split at h
  · rename_i found hfound
    cases h
    have hid := List.find?_some (p := fun row : Issuance => decide (row.id = id)) hfound
    exact ⟨List.mem_of_find?_eq_some hfound, of_decide_eq_true hid⟩
  · cases h

theorem updatedRow_eq_ok {id : Nat} {dto : IssuanceDto} {r : Issuance × Catalog} (h : updatedRow s db id dto = .ok r)
    (hincluded : r.1.register_decision = "included") : JustifiedIn db r.1 := by
  simp only [updatedRow, updatedCatalog, bind_eq_ok] at h
  obtain ⟨_, hfields, issuance, hfound, catalog, ⟨_, -, domains, hdomains, _, -, _, hchecks, hcatalog⟩, row, hrow, h⟩ := h
  cases h
  cases hcatalog
  have hplain := plain_decisionAfter issuance.lifecycle_status (orElse dto.lifecycle_status issuance.lifecycle_status)
    (validateArchitectureFields_eq_ok hfields (plain_string issuance.register_decision))
  have hdecision := (columns_eq_ok hrow hplain).2.2.2.1 hincluded
  have hsub := reassignedDomains_eq_ok hdomains (domainsOf_subset issuance)
  refine assertIncluded_eq_ok (givenThat_eq_ok.mp hchecks ?_) hrow rfl hplain hsub
  show Json.isText "included" (decisionAfter _ _ _) = true
  rw [show decisionAfter _ _ _ = _ from hdecision]
  decide

theorem keeps_createIssuance (s : Services) (dto : CreateIssuanceDto) : Keeps Sound (createIssuance s dto) := by
  refine triple_bind (Q := fun r db => Sound db ∧ (r.1.register_decision = "included" → JustifiedIn db r.1))
    (triple_reads (fun db r h hr => ⟨h, createdRow_eq_ok hr⟩) fun db h => h) ?_
  rintro ⟨row, catalog⟩
  refine triple_bind (triple_modify (Q := fun _ => Sound) ?_) fun _ => ?_
  · rintro db ⟨h, hrow⟩
    have hsupports : Supports db { db with issuances := db.issuances ++ [row] } :=
      .of_subset (List.Subset.refl _) (List.Subset.refl _)
    refine ⟨h.justified.step hsupports fun other hmem => ?_, h.domainIds, h.sourceIds⟩
    rcases List.mem_append.mp hmem with hmem | hmem
    · exact .inl hmem
    · rw [List.mem_singleton.mp hmem]
      exact .inr fun hincluded => (hrow hincluded).mono hsupports
  · refine triple_bind (keeps_syncLegacyAmendmentRelationship row.id catalog) fun _ => ?_
    refine triple_bind (keeps_syncPrimaryUrlSource s row.id catalog) fun _ => ?_
    exact triple_bind (triple_reads (fun _ _ h _ => h) fun _ h => h) fun _ => triple_pure fun _ h => h

theorem keeps_updateIssuance (s : Services) (id : Nat) (dto : IssuanceDto) : Keeps Sound (updateIssuance s id dto) := by
  refine triple_bind (Q := fun r db => Sound db ∧ (r.1.register_decision = "included" → JustifiedIn db r.1))
    (triple_reads (fun db r h hr => ⟨h, updatedRow_eq_ok hr⟩) fun db h => h) ?_
  rintro ⟨row, catalog⟩
  refine triple_bind (triple_modify (Q := fun _ => Sound) fun db h => h.1.saveIssuance h.2) fun _ => ?_
  exact triple_bind (keeps_syncLegacyAmendmentRelationship id catalog) fun _ => keeps_syncPrimaryUrlSource s id catalog

/-! ## Removal -/

theorem Sound.removeIssuance (h : Sound db) (id : Nat) : Sound (db.removeIssuance id) where
  justified := by
    intro row hmem hincluded
    rw [Register.removeIssuance, List.mem_filter, decide_eq_true_eq] at hmem
    obtain ⟨hrow, hne⟩ := hmem
    have hjustified := h.justified row hrow hincluded
    refine ⟨hjustified.active, hjustified.applicable, hjustified.domain, hjustified.source.imp_left ?_⟩
    rintro ⟨source, hsource, hof⟩
    exact ⟨source, List.mem_filter.mpr ⟨hsource, decide_eq_true (by rw [hof]; exact hne)⟩, hof⟩
  domainIds := h.domainIds
  sourceIds := h.sourceIds.sublist (List.filter_sublist.map _)

theorem keeps_deleteIssuance (id : Nat) : Keeps Sound (deleteIssuance id) := by
  refine triple_bind (Q := fun _ => Sound) (triple_reads (fun _ _ h _ => h) fun _ h => h) fun issuance => ?_
  refine triple_modify fun db h => ?_
  split_ifs
  · exact h.removeIssuance id
  · exact h
  · refine h.saveIssuance fun hincluded => absurd ?_ (show "excluded" ≠ "included" by decide)
    exact hincluded

/-! ## Attachments and sources -/

/-- An issuance that has a source may be given any URL. -/
theorem Sound.writeUrl (h : Sound db) {id : Nat} (url : String) (hsource : ∃ source ∈ db.sources, source.issuanceId = id) :
    Sound (db.writeUrl id url) where
  justified := by
    refine h.justified.step (.of_subset (List.Subset.refl _) (List.Subset.refl _)) fun row hmem => ?_
    obtain ⟨old, hold, rfl⟩ := List.mem_map.mp hmem
    split_ifs with hid
    · refine .inr fun hincluded => ?_
      have hjustified := h.justified old hold hincluded
      exact ⟨hjustified.active, hjustified.applicable, hjustified.domain, .inl (by rw [hid]; exact hsource)⟩
    · exact .inl hold
  domainIds := h.domainIds
  sourceIds := h.sourceIds

theorem Sound.attach (h : Sound db) {id : Nat} {issuance : Issuance} (hfound : db.findIssuance id = .ok issuance)
    (attachment : Option Attachment) : Sound (db.saveIssuance { issuance with attachment }) := by
  refine h.saveIssuance fun hincluded => ?_
  have hjustified := h.justified issuance (findIssuance_eq_ok hfound).1 hincluded
  exact ⟨hjustified.active, hjustified.applicable, hjustified.domain, hjustified.source⟩

theorem attachable_eq_ok {id : Nat} {file : Option File} {r : Issuance × Attachment × Option IssuanceSource}
    (h : attachable s db id file = .ok r) :
    db.findIssuance id = .ok r.1 ∧ ∀ source, r.2.2 = some source → source ∈ db.sources := by
  simp only [attachable, bind_eq_ok] at h
  obtain ⟨_, -, issuance, hfound, _, -, h⟩ := h
  cases h
  exact ⟨hfound, fun source hsource => List.mem_of_find?_eq_some hsource⟩

theorem Sound.attached (h : Sound db) {id : Nat} {issuance : Issuance} (hfound : db.findIssuance id = .ok issuance)
    (attachment : Attachment) {duplicate : Option IssuanceSource}
    (hduplicate : ∀ source, duplicate = some source → source ∈ db.sources) :
    Sound (attached s issuance attachment duplicate db) := by
  have hsaved := h.attach hfound (some attachment)
  cases duplicate with
  | none =>
    refine Sound.insertSource ?_ _
    split_ifs
    · exact hsaved.clearPrimary issuance.id s.now
    · exact hsaved
  | some source =>
    have hmem := hduplicate source rfl
    unfold References.attached
    dsimp only
    split_ifs
    · refine hsaved.clear_save hmem ?_ ?_ issuance.id s.now <;> rfl
    · refine hsaved.saveSource hmem ?_ ?_ s.now <;> rfl

theorem keeps_uploadAttachment (s : Services) (id : Nat) (file : Option File) : Keeps Sound (uploadAttachment s id file) := by
  refine triple_bind
    (Q := fun r db => Sound db ∧ db.findIssuance id = .ok r.1 ∧ ∀ source, r.2.2 = some source → source ∈ db.sources)
    (triple_reads (fun db r h hr => ⟨h, attachable_eq_ok hr⟩) fun db h => h) ?_
  rintro ⟨issuance, attachment, duplicate⟩
  exact triple_modify fun db h => h.1.attached h.2.1 attachment h.2.2

theorem detachable_eq_ok {id : Nat} {r : Issuance × Option IssuanceSource} (h : detachable s db id = .ok r) :
    db.findIssuance id = .ok r.1 ∧ (∀ source, r.2 = some source → source ∈ db.sourcesOf id) ∧
      (r.1.register_decision = "included" →
        ∃ other ∈ db.sourcesOf id, some other.id ≠ r.2.map IssuanceSource.id) := by
  simp only [detachable, bind_eq_ok] at h
  obtain ⟨issuance, hfound, h⟩ := h
  split at h
  · cases h
  · simp only [bind_eq_ok, check_eq_ok] at h
    obtain ⟨_, hothers, h⟩ := h
    cases h
    refine ⟨hfound, fun source hsource => List.mem_of_find?_eq_some hsource, fun hincluded => ?_⟩
    obtain ⟨other, hmem⟩ := List.exists_mem_of_ne_nil _ fun hnil => hothers ⟨hincluded, hnil⟩
    rw [List.mem_filter, decide_eq_true_eq] at hmem
    exact ⟨other, hmem⟩

/-- A source of an issuance is removed where another one stays, should the issuance be included. -/
theorem Sound.removeSource (h : Sound db) {id : Nat} {source : Option IssuanceSource}
    (hsource : ∀ own, source = some own → own ∈ db.sourcesOf id)
    (hother : ∀ row ∈ db.issuances, row.id = id → row.register_decision = "included" →
      ∃ other ∈ db.sourcesOf id, some other.id ≠ source.map IssuanceSource.id) : Sound (db.removeSource source) where
  justified := by
    intro row hrow hincluded
    have hjustified := h.justified row hrow hincluded
    refine ⟨hjustified.active, hjustified.applicable, hjustified.domain, hjustified.source.imp_left ?_⟩
    rintro ⟨own, hown, hof⟩
    by_cases hid : row.id = id
    · obtain ⟨other, hmem, hne⟩ := hother row hrow hid hincluded
      obtain ⟨hdb, hof'⟩ := mem_of_mem_sourcesOf hmem
      exact ⟨other, List.mem_filter.mpr ⟨hdb, decide_eq_true hne⟩, hof'.trans hid.symm⟩
    · refine ⟨own, List.mem_filter.mpr ⟨hown, decide_eq_true ?_⟩, hof⟩
      intro hremoved
      obtain ⟨removed, hsome, hsame⟩ := Option.map_eq_some_iff.mp hremoved.symm
      obtain ⟨hdb, hof'⟩ := mem_of_mem_sourcesOf (hsource removed hsome)
      have heq : removed = own := List.inj_on_of_nodup_map h.sourceIds hdb hown hsame
      exact hid (hof.symm.trans (heq ▸ hof'))
  domainIds := h.domainIds
  sourceIds := h.sourceIds.sublist (List.filter_sublist.map _)

theorem Sound.promoteFallback (h : Sound db) (s : Services) (id : Nat) : Sound (promoteFallback s id db) := by
  unfold References.promoteFallback
  split_ifs
  · exact h
  · split
    · exact h
    · rename_i fallback hfallback
      obtain ⟨hmem, hof⟩ := mem_of_mem_sourcesOf (mem_of_latest hfallback)
      have hsaved : Sound (db.saveSource { fallback with isPrimary := true } s.now) := by
        refine h.saveSource hmem ?_ ?_ s.now <;> rfl
      split
      · split_ifs
        · exact hsaved
        · refine hsaved.writeUrl _ ⟨_, List.mem_map_of_mem hmem, ?_⟩
          rw [if_pos rfl]
          refine (IssuanceSource.saved_issuanceId ?_).trans hof
          rfl
      · exact hsaved

theorem keeps_deleteAttachment (s : Services) (id : Nat) : Keeps Sound (deleteAttachment s id) := by
  refine triple_bind
    (Q := fun r db => Sound db ∧ db.findIssuance id = .ok r.1 ∧ (∀ source, r.2 = some source → source ∈ db.sourcesOf id) ∧
      (r.1.register_decision = "included" → ∃ other ∈ db.sourcesOf id, some other.id ≠ r.2.map IssuanceSource.id))
    (triple_reads (fun db r h hr => ⟨h, detachable_eq_ok hr⟩) fun db h => h) ?_
  rintro ⟨issuance, source⟩
  refine triple_modify fun db h => ?_
  obtain ⟨hsound, hfound, hsource, hother⟩ := h
  refine ((hsound.attach hfound none).removeSource hsource ?_).promoteFallback s id
  -- every row of the issuance is the saved one
  intro row hrow hid hincluded
  obtain ⟨old, -, rfl⟩ := List.mem_map.mp hrow
  split_ifs at hid hincluded with hsame
  · exact hother hincluded
  · exact absurd (hid.trans (findIssuance_eq_ok hfound).2.symm) hsame

theorem keeps_addSource (s : Services) (issuanceId : Nat) (dto : AddSourceDto) : Keeps Sound (addSource s issuanceId dto) := by
  refine triple_bind (Q := fun _ => Sound) (triple_reads (fun _ _ h _ => h) fun _ h => h) ?_
  rintro ⟨url, isPrimary⟩
  refine triple_bind (Q := fun _ => Sound) (triple_modify fun db h => ?_) fun _ => ?_
  · split_ifs
    · exact h.clearPrimary issuanceId s.now
    · exact h
  · refine triple_bind (Q := fun source db => Sound db ∧ source.issuanceId = issuanceId)
      (triple_reads (fun db source h hsource => ⟨h, ?_⟩) fun db h => h) fun source => triple_modify fun db h => ?_
    · simp only [addedSource, bind_eq_ok] at hsource
      obtain ⟨_, -, _, -, _, -, hsource⟩ := hsource
      cases hsource
      rfl
    · have hsaved := h.1.insertSource source
      dsimp only
      split_ifs
      · exact hsaved.writeUrl url ⟨_, List.mem_append_right _ (List.mem_singleton_self _), h.2⟩
      · exact hsaved

/-! ## Domains -/

theorem Sound.createDomain (h : Sound db) {dto : DomainDto} {domain : ComplianceDomain}
    (hdomain : createdDomain db dto = .ok domain) : Sound { db with domains := db.domains ++ [domain] } where
  justified :=
    h.justified.step (.of_subset (List.subset_append_left _ _) (List.Subset.refl _)) fun _ hmem => .inl hmem
  domainIds := by
    have hid : domain.id = nextId (db.domains.map ComplianceDomain.id) := by
      simp only [createdDomain, bind_eq_ok] at hdomain
      obtain ⟨_, -, _, -, name, -, hdomain⟩ := hdomain
      split at hdomain
      · cases hdomain
      · simp only [bind_eq_ok] at hdomain
        obtain ⟨_, -, _, -, hdomain⟩ := hdomain
        cases hdomain
        rfl
    refine nodup_column_concat h.domainIds fun row hrow hsame => nextId_notMem (db.domains.map ComplianceDomain.id) ?_
    exact List.mem_map.mpr ⟨row, hrow, hsame.trans hid⟩
  sourceIds := h.sourceIds

theorem keeps_createDomain (dto : DomainDto) : Keeps Sound (createDomain dto) :=
  triple_bind (Q := fun domain db => Sound db ∧ createdDomain db dto = .ok domain)
    (triple_reads (fun _ _ h hdomain => ⟨h, hdomain⟩) fun _ h => h) fun _ => triple_modify fun _ h => h.1.createDomain h.2

/-- A request deactivates a domain, by a falsy value other than `false`, that included issuances rely on. -/
def DeactivatesUnchecked (db : Register) (id : Nat) (dto : DomainDto) : Prop :=
  (∃ domain, (db.domains.find? fun row => decide (row.id = id)) = some domain ∧ domain.isActive = true) ∧
    (∃ value, dto.isActive = some value ∧ value.truthy = false ∧ value ≠ .bool false) ∧
    (∃ name, updatedText dto.name none = .ok name) ∧ (∃ description, updatedText dto.description none = .ok description) ∧
    db.affected id ≠ []

theorem mem_affected {id : Nat} {issuance : Issuance} :
    issuance ∈ db.affected id ↔ issuance ∈ db.issuances ∧ issuance.register_decision = "included" ∧
      id ∈ issuance.domainIds ∧
      ∀ other ∈ db.domains, other.id ∈ issuance.domainIds → other.id ≠ id → other.isActive = false := by
  simp [Register.affected, and_assoc]

theorem updatedText_eq_ok {value : Option Json} {current text : Option String}
    (h : updatedText value current = .ok text) : ∃ text', updatedText value none = .ok text' := by
  unfold updatedText at h ⊢
  cases value with
  | none => exact ⟨none, rfl⟩
  | some value => exact ⟨text, h⟩

/-- The domains with a row written. -/
def Register.saveDomain (db : Register) (domain : ComplianceDomain) : Register :=
  { db with domains := db.domains.map fun row => if row.id = domain.id then domain else row }

/-- An active domain that stays active, or is none of the included issuances' only one. -/
theorem Sound.saveDomain (h : Sound db) {old domain : ComplianceDomain} (hold : old ∈ db.domains)
    (hid : domain.id = old.id) (hactive : old.isActive = true → domain.isActive = true ∨ db.affected old.id = []) :
    Sound (db.saveDomain domain) := by
  have hids : ((db.saveDomain domain).domains.map ComplianceDomain.id).Nodup := by
    have hsame : (db.saveDomain domain).domains.map ComplianceDomain.id = db.domains.map ComplianceDomain.id := by
      rw [Register.saveDomain, List.map_map]
      refine List.map_congr_left fun row _ => ?_
      rw [Function.comp_apply]
      split_ifs with heq
      · exact heq.symm
      · rfl
    rw [hsame]
    exact h.domainIds
  have hother : ∀ row ∈ db.domains, row.id ≠ old.id → row ∈ (db.saveDomain domain).domains := by
    intro row hrow hne
    refine List.mem_map.mpr ⟨row, hrow, if_neg fun heq => hne (heq.trans hid)⟩
  refine ⟨fun issuance hissuance hincluded => ?_, hids, h.sourceIds⟩
  have hjustified := h.justified issuance hissuance hincluded
  refine ⟨hjustified.active, hjustified.applicable, ?_, hjustified.source⟩
  obtain ⟨own, hown, hlinked, hownactive⟩ := hjustified.domain
  by_cases hsame : own.id = old.id
  · have heq : own = old := List.inj_on_of_nodup_map h.domainIds hown hold hsame
    subst heq
    rcases hactive hownactive with hstays | hnone
    · refine ⟨domain, List.mem_map.mpr ⟨own, hown, if_pos hid.symm⟩, ?_, hstays⟩
      rw [hid]
      exact hlinked
    · -- no included issuance has this domain as its only active one
      by_contra hlast
      have haffected : issuance ∈ db.affected own.id := by
        refine mem_affected.mpr ⟨hissuance, hincluded, hlinked, fun other hmem hlinked' hne => ?_⟩
        rw [Bool.eq_false_iff]
        intro hactive'
        exact hlast ⟨other, hother other hmem hne, hlinked', hactive'⟩
      rw [hnone] at haffected
      exact List.not_mem_nil haffected
  · exact ⟨own, hother own hown hsame, hlinked, hownactive⟩

theorem updatedDomain_eq_ok {id : Nat} {dto : DomainDto} {domain : ComplianceDomain}
    (h : updatedDomain db id dto = .ok domain) (hchecked : ¬ DeactivatesUnchecked db id dto) :
    ∃ old ∈ db.domains, old.id = id ∧ domain.id = old.id ∧
      (old.isActive = true → domain.isActive = true ∨ db.affected old.id = []) := by
  unfold updatedDomain at h
  split at h
  · cases h
  · rename_i old hfound
    simp only [bind_eq_ok, check_eq_ok] at h
    obtain ⟨_, hcheck, name, hname, description, hdescription, h⟩ := h
    cases h
    have hid := List.find?_some (p := fun row : ComplianceDomain => decide (row.id = id)) hfound
    rw [decide_eq_true_eq] at hid
    refine ⟨old, List.mem_of_find?_eq_some hfound, hid, rfl, fun hactive => ?_⟩
    rw [hid]
    by_contra hlost
    rw [not_or] at hlost
    obtain ⟨hinactive, haffected⟩ := hlost
    have hfalsy : ∃ value, dto.isActive = some value ∧ value.truthy = false := by
      cases hvalue : dto.isActive with
      | none =>
        refine absurd ?_ hinactive
        rw [hvalue]
        exact hactive
      | some value =>
        refine ⟨value, rfl, ?_⟩
        rw [hvalue] at hinactive
        exact Bool.eq_false_iff.mpr hinactive
    obtain ⟨value, hvalue, hfalse⟩ := hfalsy
    refine hchecked ⟨⟨old, hfound, hactive⟩, ⟨value, hvalue, hfalse, ?_⟩, updatedText_eq_ok hname,
      updatedText_eq_ok hdescription, haffected⟩
    rintro rfl
    refine hcheck ⟨?_, hactive, haffected⟩
    rw [hvalue]
    rfl

theorem triple_updateDomain (id : Nat) (dto : DomainDto) :
    Triple (fun db => Sound db ∧ ¬ DeactivatesUnchecked db id dto) (updateDomain id dto) (fun _ => Sound) Sound := by
  refine triple_bind (Q := fun domain db => Sound db ∧ ∃ old ∈ db.domains, old.id = id ∧ domain.id = old.id ∧
      (old.isActive = true → domain.isActive = true ∨ db.affected old.id = []))
    (triple_reads (fun db domain h hdomain => ⟨h.1, updatedDomain_eq_ok hdomain h.2⟩) fun db h => h.1) ?_
  refine fun domain => triple_modify fun db h => ?_
  obtain ⟨hsound, old, hold, hid, hsame, hactive⟩ := h
  have hsaved := hsound.saveDomain hold hsame hactive
  rw [Register.saveDomain, hsame, hid] at hsaved
  exact hsaved

/-! ## Decisions -/

/-- The decision may include the issuance, but for its only source, which is a URL of white space. -/
def IncludesOnBlankUrl (db : Register) (issuanceId : Nat) (dto : DecisionDto) : Prop :=
  ∃ issuance domains url, db.findIssuance issuanceId = .ok issuance ∧
    (∃ reason, trimmed dto.reason = .ok (some reason)) ∧
    assertAllowed dto.applicabilityStatus APPLICABILITY_STATUSES "Applicability Status" = .ok () ∧
    reassignedDomains db dto.domainIds (db.domainsOf issuance) = .ok domains ∧
    issuance.lifecycle_status = "active" ∧
    isApplicable (orElse dto.applicabilityStatus issuance.applicability_status) = true ∧
    domains.any ComplianceDomain.isActive = true ∧ db.sourcesOf issuanceId = [] ∧
    issuance.source_url = some url ∧ url ≠ "" ∧ trim url = ""

theorem decidedRow_eq_ok {issuanceId : Nat} {decision : RegisterDecision} {dto : DecisionDto} {row : Issuance}
    (h : decidedRow db issuanceId decision dto = .ok row)
    (hchecked : decision = .included → ¬ IncludesOnBlankUrl db issuanceId dto)
    (hincluded : row.register_decision = "included") : JustifiedIn db row := by
  simp only [decidedRow, bind_eq_ok, check_eq_ok] at h
  obtain ⟨issuance, hfound, reason, hreason, _, hgiven, _, hallowed, domains, hdomains, _, hchecks, h⟩ := h
  cases h
  have hdecision : decision = .included := by
    cases decision with
    | included => rfl
    | excluded =>
      have hexcluded : "excluded" = "included" := hincluded
      exact absurd hexcluded (by decide)
  have hinclude := givenThat_eq_ok.mp hchecks (decide_eq_true hdecision)
  simp only [assertIncludable, bind_eq_ok, check_eq_ok] at hinclude
  obtain ⟨_, hactive, _, happlicable, _, hany, hsource⟩ := hinclude
  refine ⟨hactive, happlicable, ?_, ?_⟩
  · exact exists_active_domain hany (reassignedDomains_eq_ok hdomains (domainsOf_subset issuance))
  · obtain ⟨-, hid⟩ := findIssuance_eq_ok hfound
    by_cases hnone : db.sourcesOf issuance.id = []
    · obtain ⟨url, hurl, hset⟩ := (Option.any_eq_true _ _).mp (hsource.resolve_left fun hne => hne hnone)
      refine .inr ⟨url, hurl, fun hblank => hchecked hdecision ?_⟩
      obtain ⟨text, rfl⟩ := Option.isSome_iff_exists.mp hgiven
      rw [hid] at hnone
      exact ⟨issuance, domains, url, hfound, ⟨text, hreason⟩, hallowed, hdomains, hactive, happlicable, hany, hnone,
        hurl, of_decide_eq_true hset, hblank⟩
    · obtain ⟨source, hmem⟩ := List.exists_mem_of_ne_nil _ hnone
      obtain ⟨hdb, hof⟩ := mem_of_mem_sourcesOf hmem
      exact .inl ⟨source, hdb, hof⟩

theorem triple_decideRegisterInclusion (issuanceId : Nat) (decision : RegisterDecision) (dto : DecisionDto) :
    Triple (fun db => Sound db ∧ (decision = .included → ¬ IncludesOnBlankUrl db issuanceId dto))
      (decideRegisterInclusion issuanceId decision dto) (fun _ => Sound) Sound := by
  refine triple_bind (Q := fun row db => Sound db ∧ (row.register_decision = "included" → JustifiedIn db row))
    (triple_reads (fun db row h hrow => ⟨h.1, decidedRow_eq_ok hrow h.2⟩) fun db h => h.1) ?_
  exact fun row => triple_modify fun db h => h.1.saveIssuance h.2

/-! ## Runs -/

/-- The condition under which a call keeps the property. -/
def Meets (db : Register) : Call → Prop
  | .decideRegisterInclusion issuanceId decision dto => decision = .included → ¬ IncludesOnBlankUrl db issuanceId dto
  | .updateDomain id dto => ¬ DeactivatesUnchecked db id dto
  | _ => True

theorem Sound.call (h : Sound db) (s : Services) {call : Call} (hmeets : Meets db call) :
    Sound (leaves (call.run s) db) := by
  cases call with
  | createIssuance dto => exact (keeps_createIssuance s dto).leaves h
  | updateIssuance id dto => exact (keeps_updateIssuance s id dto).leaves h
  | deleteIssuance id => exact (keeps_deleteIssuance id).leaves h
  | decideRegisterInclusion issuanceId decision dto =>
    exact (triple_decideRegisterInclusion issuanceId decision dto).leaves ⟨h, hmeets⟩
  | createDomain dto => exact (keeps_createDomain dto).leaves h
  | updateDomain id dto => exact (triple_updateDomain id dto).leaves ⟨h, hmeets⟩
  | addSource issuanceId dto => exact (keeps_addSource s issuanceId dto).leaves h
  | uploadAttachment id file => exact (keeps_uploadAttachment s id file).leaves h
  | deleteAttachment id => exact (keeps_deleteAttachment s id).leaves h

theorem Sound.run {history : List (Transition Register (Services × Call))} (h : Run registering history db)
    (hmeets : ∀ e ∈ history, Meets e.before e.label.2) : Sound db := by
  refine Run.always (P := fun e => Meets e.before e.label.2) ?_ ?_ h hmeets
  · rintro db ⟨hnone, hdomains, hsources⟩
    refine ⟨fun issuance hmem => ?_, hdomains, hsources⟩
    rw [hnone] at hmem
    exact absurd hmem List.not_mem_nil
  · rintro db ⟨s, call⟩ db' hsound rfl hcall
    exact hsound.call s hcall

/-- Such a decision includes the issuance. -/
theorem unjustified_of_blank {issuanceId : Nat} {dto : DecisionDto} (h : IncludesOnBlankUrl db issuanceId dto) :
    ¬ Justified (leaves (decideRegisterInclusion issuanceId .included dto) db) := by
  obtain ⟨issuance, domains, url, hfound, ⟨reason, hreason⟩, hallowed, hdomains, hactive, happlicable, hany, hnone, hurl,
    hset, hblank⟩ := h
  obtain ⟨hmem, hid⟩ := findIssuance_eq_ok hfound
  obtain ⟨row, hrow, hrowid, hdecision, hrowurl⟩ : ∃ row, decidedRow db issuanceId .included dto = .ok row ∧
      row.id = issuanceId ∧ row.register_decision = "included" ∧ row.source_url = some url := by
    refine ⟨{ issuance with
      applicability_status := orElse dto.applicabilityStatus issuance.applicability_status
      register_decision := "included", status_reason := some reason, domainIds := domains.map ComplianceDomain.id },
      ?_, hid, rfl, hurl⟩
    simp only [decidedRow, bind_eq_ok, check_eq_ok]
    refine ⟨issuance, hfound, some reason, hreason, (), rfl, (), hallowed, domains, hdomains, (), ?_, rfl⟩
    rw [givenThat_eq_ok]
    intro _
    simp only [assertIncludable, bind_eq_ok, check_eq_ok]
    refine ⟨(), hactive, (), happlicable, (), hany, .inr ?_⟩
    rw [hurl]
    exact decide_eq_true hset
  intro hjustified
  unfold decideRegisterInclusion at hjustified
  rw [leaves_reads (f := fun db => decidedRow db issuanceId .included dto) hrow] at hjustified
  have hsaved : row ∈ (db.saveIssuance row).issuances :=
    List.mem_map.mpr ⟨issuance, hmem, if_pos (hid.trans hrowid.symm)⟩
  rcases (hjustified row hsaved hdecision).source with ⟨source, hsource, hof⟩ | ⟨url', hurl', htrim⟩
  · have hown : source ∈ db.sourcesOf issuanceId :=
      List.mem_filter.mpr ⟨hsource, decide_eq_true (hof.trans hrowid)⟩
    rw [hnone] at hown
    exact List.not_mem_nil hown
  · rw [hrowurl] at hurl'
    exact htrim (Option.some.inj hurl' ▸ hblank)

theorem updatedText_of_eq_ok {value : Option Json} {text : Option String} (current : Option String)
    (h : updatedText value none = .ok text) : ∃ text', updatedText value current = .ok text' := by
  unfold updatedText at h ⊢
  cases value with
  | none => exact ⟨current, rfl⟩
  | some value => exact ⟨text, h⟩

/-- Such a request leaves an included issuance without an active domain. -/
theorem unjustified_of_unchecked {id : Nat} {dto : DomainDto} (h : DeactivatesUnchecked db id dto) :
    ¬ Justified (leaves (updateDomain id dto) db) := by
  obtain ⟨⟨old, hfound, hactive⟩, ⟨value, hvalue, hfalsy, hne⟩, ⟨name, hname⟩, ⟨description, hdescription⟩, haffected⟩ := h
  obtain ⟨name', hname'⟩ := updatedText_of_eq_ok (some old.name) hname
  obtain ⟨description', hdescription'⟩ := updatedText_of_eq_ok old.description hdescription
  obtain ⟨domain, hdomain, hinactive⟩ : ∃ domain, updatedDomain db id dto = .ok domain ∧ domain.isActive = false := by
    refine ⟨{ old with
      name := name'.getD "", description := description'.filter fun text => text ≠ ""
      isActive := (dto.isActive.map Json.truthy).getD old.isActive }, ?_, ?_⟩
    · unfold updatedDomain
      rw [hfound]
      simp only [bind_eq_ok, check_eq_ok]
      refine ⟨(), ?_, name', hname', description', hdescription', rfl⟩
      rintro ⟨hfalse, -, -⟩
      rw [hvalue] at hfalse
      cases value with
      | bool b =>
        cases b with
        | false => exact hne rfl
        | true => cases hfalsy
      | _ => cases hfalse
    · show (dto.isActive.map Json.truthy).getD old.isActive = false
      rw [hvalue]
      exact hfalsy
  obtain ⟨issuance, hmem⟩ := List.exists_mem_of_ne_nil _ haffected
  obtain ⟨hissuance, hincluded, -, hothers⟩ := mem_affected.mp hmem
  intro hjustified
  unfold updateDomain at hjustified
  rw [leaves_reads (f := fun db => updatedDomain db id dto) hdomain] at hjustified
  obtain ⟨own, hown, hlinked, hownactive⟩ := (hjustified issuance hissuance hincluded).domain
  obtain ⟨row, hrow, rfl⟩ := List.mem_map.mp hown
  split_ifs at hlinked hownactive with hsame
  · rw [hinactive] at hownactive
    cases hownactive
  · rw [hothers row hrow hlinked hsame] at hownactive
    cases hownactive

/-- **Register inclusion is justified** after every run whose calls meet the condition, and in the state reached the
next call keeps it so if and only if it meets it too. -/
theorem inclusions_are_justified {history : List (Transition Register (Services × Call))} (h : Run registering history db)
    (hmeets : ∀ e ∈ history, Meets e.before e.label.2) :
    Justified db ∧ ∀ s call, Justified (leaves (Call.run s call) db) ↔ Meets db call := by
  have hsound := Sound.run h hmeets
  refine ⟨hsound.justified, fun s call => ⟨fun hjustified => ?_, fun hcall => (hsound.call s hcall).justified⟩⟩
  cases call with
  | decideRegisterInclusion issuanceId decision dto =>
    rintro rfl hblank
    exact unjustified_of_blank hblank hjustified
  | updateDomain id dto =>
    intro hunchecked
    exact unjustified_of_unchecked hunchecked hjustified
  | _ => trivial

/-! ## A domain turned off with a zero -/

def desk : Services where
  now := 0
  sha256 _ := ""
  compoundText _ := none

def includedOnArrival : CreateIssuanceDto where
  issuance_number := some (.string "RA 10173")
  lifecycle_status := some (.string "active")
  applicability_status := some (.string "applicable")
  register_decision := some (.string "included")
  domain_ids := some (.array [.number 1])
  source_url := some (.string "https://example.org/ra10173")

def privacy : DomainDto where
  code := some (.string "privacy")
  name := some (.string "Privacy")

/-- A register with one domain and one included issuance. -/
def oneIncluded : Register :=
  leaves (createIssuance desk includedOnArrival)
    (leaves (createDomain privacy) {})

theorem run_oneIncluded : ∃ history, Run registering history oneIncluded ∧ ∀ e ∈ history, Meets e.before e.label.2 := by
  have hstart : Run registering [] {} := .init ⟨rfl, List.nodup_nil, List.nodup_nil⟩
  have hdomain := hstart.step (l := (desk, Call.createDomain privacy)) rfl
  have hissuance := hdomain.step (l := (desk, Call.createIssuance includedOnArrival)) rfl
  refine ⟨_, hissuance, ?_⟩
  intro e he
  rcases List.mem_append.mp he with he | he <;>
  · rw [List.mem_singleton.mp he]
    trivial

theorem inclusions_are_justified_once :
    oneIncluded.issuances.map Issuance.register_decision = ["included"] ∧ Justified oneIncluded := by
  obtain ⟨history, hrun, hmeets⟩ := run_oneIncluded
  exact ⟨by decide +kernel, (inclusions_are_justified hrun hmeets).1⟩

/-- A domain is deactivated with the number zero. -/
theorem included_without_domain :
    ¬ ∀ (history : List (Transition Register (Services × Call))) (db : Register), Run registering history db →
      Justified db := by
  intro hall
  obtain ⟨history, hrun, -⟩ := run_oneIncluded
  have hlast := hall _ _ (hrun.step (l := (desk, Call.updateDomain 1 { isActive := some (.number 0) })) rfl)
  have hlost : ((leaves (updateDomain 1 { isActive := some (.number 0) }) oneIncluded).issuances.any fun issuance =>
      decide (issuance.register_decision = "included") &&
        !(leaves (updateDomain 1 { isActive := some (.number 0) }) oneIncluded).domains.any ComplianceDomain.isActive) =
      true := by
    decide +kernel
  obtain ⟨issuance, hmem, h⟩ := List.any_eq_true.mp hlost
  rw [Bool.and_eq_true, decide_eq_true_eq, Bool.not_eq_true'] at h
  obtain ⟨own, hown, -, hactive⟩ := (hlast issuance hmem h.1).domain
  rw [List.any_eq_false] at h
  exact h.2 own hown hactive

end ComplianceHub.References
