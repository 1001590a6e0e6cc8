import ComplianceHub.Documents.Reviews
import ComplianceHub.Lib.Rows

/-!
# Verdicts on the current version

* `Write` : a write of an operation other than a new version, with what the operation has read for it;
* `Filed` : identifiers are unique, and every review is of a stored document and version;
* `Current` : a latest review that is compliant was made for the current version;
* `CurrentVerdict` : so is what the workflow and the repository show;
* `verdict_is_of_the_current_version` : the verdicts of a run are current exactly where no new version finds a
  compliant one;
* `verdict_of_the_first_version` : a new version keeps the verdict of the one before it.
-/

namespace ComplianceHub.Documents

open ComplianceHub.Lib

variable {s : Services} {db db' db₀ : DocumentDb}

/-! ## Writes -/

inductive Write (db : DocumentDb) : DocumentDb → Prop
  | document (id : Nat) {f : Document → Document}
      (hf : ∀ document, (f document).id = document.id ∧ (f document).current_version = document.current_version) :
      Write db (db.updateDocument id f)
  | upload (s : Services) (dto : UploadDocumentDto) (filed : Submission) : Write db (putDocument s dto filed db)
  | review (s : Services) {version : DocumentVersion} {document : Document} {decision : ReviewDecision}
      (remarks : Option String) (reviewer_id : Option Nat) (hversion : version ∈ db.versions)
      (hdocument : document ∈ db.documents) (hid : document.id = version.document_id)
      (hcurrent : decision = .compliant → document.current_version = version.version_number) :
      Write db (addReview s version decision remarks reviewer_id db)
  | flag (id : Nat) (remarks : String) : Write db (updateReview id (flagAgain remarks) db)

abbrev Writes : DocumentDb → DocumentDb → Prop := Relation.ReflTransGen Write

theorem document?_eq_some {id : Nat} {document : Document} (h : db.document? id = some document) :
    document ∈ db.documents ∧ document.id = id := by
  unfold DocumentDb.document? at h
  exact ⟨List.mem_of_find?_eq_some h, (of_decide_eq_true (List.find?_some h :)).1⟩

theorem version?_eq_some {document_id version_number : Nat} {version : DocumentVersion}
    (h : db.version? document_id version_number = some version) :
    version ∈ db.versions ∧ version.document_id = document_id ∧ version.version_number = version_number := by
  unfold DocumentDb.version? at h
  exact ⟨List.mem_of_find?_eq_some h, of_decide_eq_true (List.find?_some h :)⟩

theorem orNotFound_eq_ok {α : Type} {row : Option α} {message : String} {a : α} (h : orNotFound row message = .ok a) :
    row = some a := by
  unfold orNotFound at h
  split at h
  · rw [Except.ok.inj h]
  · cases h

/-- A review is made for a document and its current version. -/
structure IsReviewed (db : DocumentDb) (documentId : Nat) (version : DocumentVersion) : Prop where
  mem : version ∈ db.versions
  document : ∃ document ∈ db.documents, document.id = version.document_id ∧
    document.current_version = version.version_number
  id : version.document_id = documentId

theorem isReviewed_of_version {documentId : Nat} {document : Document} {version : DocumentVersion}
    (hdocument : db.document? documentId = some document)
    (hversion : db.version? documentId document.current_version = some version) : IsReviewed db documentId version := by
  obtain ⟨hmem, hid⟩ := document?_eq_some hdocument
  obtain ⟨hversion, hof, hnumber⟩ := version?_eq_some hversion
  exact ⟨hversion, ⟨document, hmem, hid.trans hof.symm, hnumber.symm⟩, hof⟩

theorem reviewedVersion_eq_ok {documentId : Nat} {dto : SubmitReviewDto} {version : DocumentVersion}
    (h : reviewedVersion db documentId dto = .ok version) : IsReviewed db documentId version := by
  obtain ⟨document, hdocument, h⟩ := bind_eq_ok.mp h
  obtain ⟨_, -, h⟩ := bind_eq_ok.mp h
  obtain ⟨_, -, h⟩ := bind_eq_ok.mp h
  exact isReviewed_of_version (orNotFound_eq_ok hdocument) (orNotFound_eq_ok h)

theorem returnedVersion_eq_ok {payload : ReturnPayload} {version : DocumentVersion}
    (h : returnedVersion db payload = .ok version) : IsReviewed db payload.document_id version := by
  obtain ⟨_, -, h⟩ := bind_eq_ok.mp h
  obtain ⟨document, hdocument, h⟩ := bind_eq_ok.mp h
  obtain ⟨_, -, h⟩ := bind_eq_ok.mp h
  exact isReviewed_of_version (orNotFound_eq_ok hdocument) (orNotFound_eq_ok h)

theorem write_softDelete (id : Nat) : Write db (db.softDelete id) :=
  .document (f := fun row => { row with is_deleted := true }) id fun _ => ⟨rfl, rfl⟩

theorem writes_replaceReturned (existing : Option Document) : Keeps (Writes db₀) (replaceReturned existing) := by
  cases existing with
  | none => exact triple_pure fun _ h => h
  | some document => exact Keeps.reads_bind fun _ => triple_modify fun _ h => h.tail (write_softDelete document.id)

theorem writes_validateSubmission (dto : UploadDocumentDto) : Keeps (Writes db₀) (validateSubmission s dto) := by
  unfold validateSubmission validateFocalSubmission
  split_ifs
  · refine Keeps.reads_bind fun _ => Keeps.reads_bind fun existing => ?_
    refine triple_bind (writes_replaceReturned existing) fun _ => ?_
    exact triple_reads (fun _ _ h _ => h) fun _ h => h
  · exact triple_pure fun _ h => h

theorem writes_replaceReportorial (dto : UploadDocumentDto) (filed : Submission) :
    Keeps (Writes db₀) (replaceReportorial s dto filed) := by
  unfold replaceReportorial
  split_ifs
  · exact Keeps.reads_bind fun existing => writes_replaceReturned existing
  · exact triple_pure fun _ h => h

theorem writes_uploadDocument (dto : UploadDocumentDto) : Keeps (Writes db₀) (uploadDocument s dto) := by
  have hstore : ∀ filed, Keeps (Writes db₀) (storeDocument s dto filed) := fun filed =>
    Keeps.reads_bind fun _ => triple_modify fun _ h => h.tail (.upload s dto filed)
  have hfile : Keeps (Writes db₀) (fileDocument s dto) :=
    Keeps.reads_bind fun filed => triple_bind (writes_replaceReportorial dto filed) fun _ => hstore filed
  exact Keeps.reads_bind fun _ => triple_bind (writes_validateSubmission dto) fun _ => hfile

theorem writes_updateStatus (id : Nat) (status : DocumentStatus) : Keeps (Writes db₀) (updateStatus id status) :=
  triple_modify fun _ h => h.tail (.document id fun _ => ⟨rfl, rfl⟩)

/-- A review of the current version is made. -/
theorem writes_addReview {read : DocumentDb → Except HttpException DocumentVersion} {documentId : Nat}
    (hread : ∀ db version, read db = .ok version → IsReviewed db documentId version) (decision : ReviewDecision)
    (remarks : Option String) (reviewer_id : Option Nat) (status : DocumentStatus) :
    Keeps (Writes db₀) (reads read >>= fun version => modify (addReview s version decision remarks reviewer_id) >>=
      fun _ => updateStatus documentId status) := by
  refine triple_bind (triple_reads (Q := fun version db => Writes db₀ db ∧ IsReviewed db documentId version)
    (fun db version h hok => ⟨h, hread db version hok⟩) fun _ h => h) fun version => ?_
  refine triple_bind (triple_modify fun db h => ?_) fun _ => writes_updateStatus documentId status
  obtain ⟨document, hdocument, hid, hnumber⟩ := h.2.document
  exact h.1.tail (.review s remarks reviewer_id h.2.mem hdocument hid fun _ => hnumber)

theorem writes_autoReview (versionId : Nat) (remarks : String) : Writes db (autoReview s versionId remarks db) := by
  unfold autoReview
  split
  · exact .refl
  · rename_i version hversion
    split
    · exact .single (.flag _ remarks)
    · obtain ⟨hfound, hany⟩ := Option.filter_eq_some_iff.mp hversion
      obtain ⟨document, hdocument, hid⟩ := List.any_eq_true.mp hany
      exact .single (.review s _ _ (List.mem_of_find?_eq_some hfound) hdocument (of_decide_eq_true hid)
        ReviewDecision.noConfusion)

theorem apply_createVersion_error {dto : CreateVersionDto} {e : HttpException} (h : nextVersionNumber s db dto = .error e) :
    db.apply (.operation s (.createVersion dto)) = db := by
  change leaves (createVersion s dto) db = db
  unfold createVersion
  rw [leaves_reads_error (f := fun db => nextVersionNumber s db dto) h]

theorem apply_createVersion_ok {dto : CreateVersionDto} {n : Nat} (h : nextVersionNumber s db dto = .ok n) :
    db.apply (.operation s (.createVersion dto)) = putVersion s dto n db := by
  change leaves (createVersion s dto) db = putVersion s dto n db
  unfold createVersion
  rw [leaves_reads (f := fun db => nextVersionNumber s db dto) h]
  rfl

/-- What a step writes: a new version, settings, or some of the writes. -/
inductive Effect (db : DocumentDb) : Event → DocumentDb → Prop
  | version {s : Services} {dto : CreateVersionDto} {n : Nat} : nextVersionNumber s db dto = .ok n →
      Effect db (.operation s (.createVersion dto)) (putVersion s dto n db)
  | settings (assignments : List DocumentAssignment) (types : List ReportorialDocumentType) :
      Effect db (.settings assignments types) { db with assignments := assignments, reportorialDocTypes := types }
  | writes {e : Event} {db' : DocumentDb} : Writes db db' → Effect db e db'

theorem effect_apply (db : DocumentDb) (e : Event) : Effect db e (db.apply e) := by
  cases e with
  | settings assignments types => exact .settings assignments types
  | operation s op =>
    cases op with
    | uploadDocument dto => exact .writes ((writes_uploadDocument dto).leaves .refl)
    | createVersion dto =>
      cases hread : nextVersionNumber s db dto with
      | error e =>
        rw [apply_createVersion_error hread]
        exact .writes .refl
      | ok n =>
        rw [apply_createVersion_ok hread]
        exact .version hread
    | submitReview documentId dto =>
      exact .writes ((writes_addReview (fun _ _ h => reviewedVersion_eq_ok h) _ _ _ _).leaves .refl)
    | returnDocumentForRevision payload =>
      exact .writes ((writes_addReview (fun _ _ h => returnedVersion_eq_ok h) _ _ _ _).leaves .refl)
    | computeMetricsAndAutoReview versionId failed =>
      cases failed with
      | none => exact .writes .refl
      | some remarks => exact .writes (writes_autoReview versionId remarks)
    | updateStatus id status => exact .writes ((writes_updateStatus id status).leaves .refl)
    | archiveDocument documentId actorId =>
      have hkeeps : Keeps (Writes db) (archiveDocument documentId actorId) :=
        Keeps.reads_bind fun _ => triple_modify fun _ h => h.tail (write_softDelete documentId)
      exact .writes (hkeeps.leaves .refl)

/-! ## Rows and identifiers -/

structure Filed (db : DocumentDb) : Prop where
  ids : (db.documents.map Document.id).Nodup
  documents : ∀ document ∈ db.documents, document.id < db.nextId
  versions : ∀ version ∈ db.versions, version.id < db.nextId
  reviews : ∀ review ∈ db.reviews, review.document_id < db.nextId ∧ review.version_id < db.nextId

theorem mem_updateDocument {id : Nat} {f : Document → Document} {document : Document}
    (h : document ∈ (db.updateDocument id f).documents) :
    ∃ old ∈ db.documents, document = if old.id = id then f old else old := by
  obtain ⟨old, hold, rfl⟩ := List.mem_map.mp h
  exact ⟨old, hold, rfl⟩

theorem Filed.updateDocument (h : Filed db) (id : Nat) {f : Document → Document} (hf : ∀ document, (f document).id = document.id) :
    Filed (db.updateDocument id f) where
  ids := by
    have hsame : (db.updateDocument id f).documents.map Document.id = db.documents.map Document.id :=
      map_column_of_change fun document _ _ => hf document
    rw [hsame]
    exact h.ids
  documents := by
    intro document hmem
    obtain ⟨old, hold, rfl⟩ := mem_updateDocument hmem
    split_ifs
    · rw [hf]
      exact h.documents old hold
    · exact h.documents old hold
  versions := h.versions
  reviews := h.reviews

theorem Filed.putDocument (h : Filed db) (s : Services) (dto : UploadDocumentDto) (filed : Submission) :
    Filed (putDocument s dto filed db) where
  ids := nodup_ids_concat h.ids h.documents
  documents := by
    intro document hmem
    show document.id < db.nextId + 2
    rcases List.mem_append.mp hmem with hmem | hmem
    · have hbelow := h.documents document hmem
      omega
    · rw [List.mem_singleton.mp hmem]
      show db.nextId < db.nextId + 2
      omega
  versions := by
    intro version hmem
    show version.id < db.nextId + 2
    rcases List.mem_append.mp hmem with hmem | hmem
    · have hbelow := h.versions version hmem
      omega
    · rw [List.mem_singleton.mp hmem]
      show db.nextId + 1 < db.nextId + 2
      omega
  reviews := by
    intro review hmem
    show review.document_id < db.nextId + 2 ∧ review.version_id < db.nextId + 2
    have hbelow := h.reviews review hmem
    omega

theorem Filed.putVersion (h : Filed db) (s : Services) (dto : CreateVersionDto) (n : Nat) :
    Filed (putVersion s dto n db) := by
  have hupdated := h.updateDocument dto.document_id (f := fun document =>
    { document with current_version := n, status := .ready, extracted_text := extractInitialText s dto.file })
    fun _ => rfl
  refine ⟨hupdated.ids, fun document hmem => ?_, fun version hmem => ?_, fun review hmem => ?_⟩
  · exact Nat.lt_succ_of_lt (hupdated.documents document hmem)
  · rcases List.mem_append.mp hmem with hmem | hmem
    · exact Nat.lt_succ_of_lt (h.versions version hmem)
    · rw [List.mem_singleton.mp hmem]
      exact Nat.lt_succ_self db.nextId
  · obtain ⟨hdocument, hversion⟩ := h.reviews review hmem
    exact ⟨Nat.lt_succ_of_lt hdocument, Nat.lt_succ_of_lt hversion⟩

theorem Filed.addReview (h : Filed db) (s : Services) {version : DocumentVersion} {document : Document}
    (hversion : version ∈ db.versions) (hdocument : document ∈ db.documents) (hid : document.id = version.document_id)
    (decision : ReviewDecision) (remarks : Option String) (reviewer_id : Option Nat) :
    Filed (addReview s version decision remarks reviewer_id db) := by
  refine ⟨h.ids, fun document hmem => ?_, fun version hmem => ?_, fun review hmem => ?_⟩
  · exact Nat.lt_succ_of_lt (h.documents document hmem)
  · exact Nat.lt_succ_of_lt (h.versions version hmem)
  · rcases List.mem_append.mp hmem with hmem | hmem
    · obtain ⟨hdocument, hversion⟩ := h.reviews review hmem
      exact ⟨Nat.lt_succ_of_lt hdocument, Nat.lt_succ_of_lt hversion⟩
    · rw [List.mem_singleton.mp hmem]
      have hbelow := h.documents document hdocument
      rw [hid] at hbelow
      exact ⟨Nat.lt_succ_of_lt hbelow, Nat.lt_succ_of_lt (h.versions version hversion)⟩

theorem Filed.updateReview (h : Filed db) (id : Nat) (remarks : String) :
    Filed (updateReview id (flagAgain remarks) db) := by
  refine ⟨h.ids, h.documents, h.versions, fun review hmem => ?_⟩
  obtain ⟨old, hold, rfl⟩ := List.mem_map.mp hmem
  split_ifs
  · exact h.reviews old hold
  · exact h.reviews old hold

theorem Filed.write (h : Filed db) (hwrite : Write db db') : Filed db' := by
  cases hwrite with
  | document id hf => exact h.updateDocument id fun document => (hf document).1
  | upload s dto filed => exact h.putDocument s dto filed
  | review s remarks reviewer_id hversion hdocument hid _ => exact h.addReview s hversion hdocument hid _ remarks reviewer_id
  | flag id remarks => exact h.updateReview id remarks

theorem Filed.writes (h : Filed db) (hwrites : Writes db db') : Filed db' := by
  induction hwrites with
  | refl => exact h
  | tail _ hwrite ih => exact ih.write hwrite

theorem Filed.effect {e : Event} (h : Filed db) (heffect : Effect db e db') : Filed db' := by
  cases heffect with
  | version _ => exact h.putVersion _ _ _
  | settings _ _ => exact ⟨h.ids, h.documents, h.versions, h.reviews⟩
  | writes hwrites => exact h.writes hwrites

/-! ## Verdicts -/

/-- A review was made for the current version of a document. -/
def IsOfCurrentVersion (db : DocumentDb) (document : Document) (review : ManualReview) : Prop :=
  ∃ version ∈ db.versions, version.id = review.version_id ∧ version.document_id = document.id ∧
    version.version_number = document.current_version

def Current (db : DocumentDb) : Prop :=
  ∀ document ∈ db.documents, ∀ review, db.latestReview document.id = some review → review.decision = .compliant →
    IsOfCurrentVersion db document review

theorem argmax_map {α : Type} {f : α → α} {g : α → Int} (hg : ∀ a, g (f a) = g a) (l : List α) :
    (l.map f).argmax g = (l.argmax g).map f := by
  induction l using List.reverseRecOn with
  | nil => rfl
  | append_singleton l a ih =>
    rw [List.map_append, List.map_singleton, List.argmax_concat, List.argmax_concat, ih]
    cases l.argmax g with
    | none => rfl
    | some c =>
      simp only [Option.map_some, hg]
      split_ifs <;> rfl

/-- A new review is the latest of its document, or the old one still is. -/
theorem latestReview_addReview {version : DocumentVersion} {decision : ReviewDecision} {remarks : Option String}
    {reviewer_id : Option Nat} {id : Nat} {review : ManualReview}
    (h : (addReview s version decision remarks reviewer_id db).latestReview id = some review) :
    (review = newReview db s version decision remarks reviewer_id ∧ id = version.document_id) ∨
      db.latestReview id = some review := by
  unfold DocumentDb.latestReview DocumentDb.reviewsOf addReview at h
  dsimp only at h
  rw [List.filter_append] at h
  by_cases hid : version.document_id = id
  · have hnew : List.filter (fun row => decide (row.document_id = id))
        [newReview db s version decision remarks reviewer_id] = [newReview db s version decision remarks reviewer_id] :=
      List.filter_cons_of_pos (decide_eq_true hid)
    rw [hnew, List.argmax_concat] at h
    unfold DocumentDb.latestReview DocumentDb.reviewsOf
    cases hlatest : (db.reviews.filter fun row => decide (row.document_id = id)).argmax ManualReview.reviewed_at with
    | none =>
      rw [hlatest] at h
      exact .inl ⟨(Option.some.inj h).symm, hid.symm⟩
    | some old =>
      rw [hlatest] at h
      dsimp only at h
      split_ifs at h
      · exact .inl ⟨(Option.some.inj h).symm, hid.symm⟩
      · exact .inr h
  · have hnew : List.filter (fun row => decide (row.document_id = id))
        [newReview db s version decision remarks reviewer_id] = [] :=
      List.filter_cons_of_neg (by rw [decide_eq_true_eq]; exact hid)
    rw [hnew, List.append_nil] at h
    exact .inr h

/-- An automatic review that is made again stays in its place. -/
theorem latestReview_updateReview (id documentId : Nat) (remarks : String) :
    (updateReview id (flagAgain remarks) db).latestReview documentId = (db.latestReview documentId).map fun review =>
      if review.id = id then flagAgain remarks review else review := by
  unfold DocumentDb.latestReview DocumentDb.reviewsOf updateReview
  dsimp only
  rw [List.filter_map, ← argmax_map fun review => ?_]
  · congr 2
    refine List.filter_congr fun review _ => ?_
    rw [Function.comp_apply]
    split_ifs <;> rfl
  · split_ifs <;> rfl

theorem IsOfCurrentVersion.kept {document document' : Document} {review : ManualReview}
    (h : IsOfCurrentVersion db document review) (hversions : db.versions ⊆ db'.versions) (hid : document'.id = document.id)
    (hnumber : document'.current_version = document.current_version) : IsOfCurrentVersion db' document' review := by
  obtain ⟨version, hmem, hsame, hof, hcurrent⟩ := h
  exact ⟨version, hversions hmem, hsame, hof.trans hid.symm, hcurrent.trans hnumber.symm⟩

theorem Current.updateDocument (h : Current db) (id : Nat) {f : Document → Document}
    (hf : ∀ document, (f document).id = document.id ∧ (f document).current_version = document.current_version) :
    Current (db.updateDocument id f) := by
  intro document hmem review hlatest hcompliant
  obtain ⟨old, hold, rfl⟩ := mem_updateDocument hmem
  have hsame : (if old.id = id then f old else old).id = old.id ∧
      (if old.id = id then f old else old).current_version = old.current_version := by
    split_ifs
    · exact hf old
    · exact ⟨rfl, rfl⟩
  rw [hsame.1] at hlatest
  exact (h old hold review hlatest hcompliant).kept (fun _ hversion => hversion) hsame.1 hsame.2

theorem mem_of_latestReview {id : Nat} {review : ManualReview} (h : db.latestReview id = some review) :
    review ∈ db.reviews ∧ review.document_id = id := by
  have hmem := List.mem_filter.mp (List.argmax_mem h)
  exact ⟨hmem.1, of_decide_eq_true hmem.2⟩

theorem Current.putDocument (hdb : Filed db) (h : Current db) (s : Services) (dto : UploadDocumentDto) (filed : Submission) :
    Current (putDocument s dto filed db) := by
  intro document hmem review hlatest hcompliant
  rcases List.mem_append.mp hmem with hmem | hmem
  · exact (h document hmem review hlatest hcompliant).kept (List.subset_append_left _ _) rfl rfl
  · -- the new document has no reviews
    obtain ⟨hreview, hid⟩ := mem_of_latestReview hlatest
    have hbelow := (hdb.reviews review hreview).1
    rw [hid, List.mem_singleton.mp hmem] at hbelow
    exact absurd hbelow (lt_irrefl db.nextId)

theorem Current.addReview (hdb : Filed db) (h : Current db) {version : DocumentVersion} {document : Document}
    {decision : ReviewDecision} (remarks : Option String) (reviewer_id : Option Nat) (hversion : version ∈ db.versions)
    (hdocument : document ∈ db.documents) (hid : document.id = version.document_id)
    (hcurrent : decision = .compliant → document.current_version = version.version_number) :
    Current (addReview s version decision remarks reviewer_id db) := by
  intro other hother review hlatest hcompliant
  rcases latestReview_addReview hlatest with ⟨rfl, hof⟩ | hlatest
  · have hsame : other = document := List.inj_on_of_nodup_map hdb.ids hother hdocument (hof.trans hid.symm)
    subst hsame
    exact ⟨version, hversion, rfl, hid.symm, (hcurrent hcompliant).symm⟩
  · exact h other hother review hlatest hcompliant

theorem Current.updateReview (h : Current db) (id : Nat) (remarks : String) :
    Current (updateReview id (flagAgain remarks) db) := by
  intro document hmem review hlatest hcompliant
  rw [latestReview_updateReview] at hlatest
  obtain ⟨old, hold, hreview⟩ := Option.map_eq_some_iff.mp hlatest
  split_ifs at hreview
  · rw [← hreview] at hcompliant
    cases hcompliant
  · subst hreview
    exact h document hmem old hold hcompliant

theorem Current.write (hdb : Filed db) (h : Current db) (hwrite : Write db db') : Current db' := by
  cases hwrite with
  | document id hf => exact h.updateDocument id hf
  | upload s dto filed => exact h.putDocument hdb s dto filed
  | review s remarks reviewer_id hversion hdocument hid hcurrent =>
    exact h.addReview hdb remarks reviewer_id hversion hdocument hid hcurrent
  | flag id remarks => exact h.updateReview id remarks

theorem Current.writes (hdb : Filed db) (h : Current db) (hwrites : Writes db db') : Current db' := by
  induction hwrites with
  | refl => exact h
  | tail hbefore hwrite ih => exact ih.write (hdb.writes hbefore) hwrite

/-! ## New versions -/

/-- A new version that is accepted finds no compliant verdict. -/
def FindsNoVerdict (db : DocumentDb) : Event → Prop
  | .operation s (.createVersion dto) => ∀ n, nextVersionNumber s db dto = .ok n →
      ∀ review, db.latestReview dto.document_id = some review → review.decision ≠ .compliant
  | _ => True

theorem Current.putVersion (h : Current db) {s : Services} {dto : CreateVersionDto} (n : Nat)
    (hnone : ∀ review, db.latestReview dto.document_id = some review → review.decision ≠ .compliant) :
    Current (putVersion s dto n db) := by
  intro document hmem review hlatest hcompliant
  obtain ⟨old, hold, rfl⟩ := mem_updateDocument hmem
  split_ifs at hlatest ⊢ with hid
  · change db.latestReview old.id = some review at hlatest
    rw [hid] at hlatest
    exact absurd hcompliant (hnone review hlatest)
  · exact (h old hold review hlatest hcompliant).kept (List.subset_append_left _ _) rfl rfl

theorem Current.effect {e : Event} (hdb : Filed db) (h : Current db) (heffect : Effect db e db') (hmeets : FindsNoVerdict db e) :
    Current db' := by
  cases heffect with
  | version hread => exact h.putVersion _ (hmeets _ hread)
  | settings _ _ => exact h
  | writes hwrites => exact h.writes hdb hwrites

/-- The version that is numbered next comes after every version of its document. -/
theorem nextVersionNumber_eq_ok {dto : CreateVersionDto} {n : Nat} (h : nextVersionNumber s db dto = .ok n) :
    (∃ document ∈ db.documents, document.id = dto.document_id) ∧
      ∀ version ∈ db.versions, version.document_id = dto.document_id → version.version_number < n := by
  obtain ⟨document, hdocument, h⟩ := bind_eq_ok.mp h
  obtain ⟨hmem, hid⟩ := document?_eq_some (orNotFound_eq_ok hdocument)
  obtain ⟨_, -, h⟩ := bind_eq_ok.mp h
  obtain ⟨_, -, h⟩ := bind_eq_ok.mp h
  refine ⟨⟨document, hmem, hid⟩, fun version hversion hof => ?_⟩
  have hrow : version ∈ db.versions.filter fun row => decide (row.document_id = document.id) :=
    List.mem_filter.mpr ⟨hversion, decide_eq_true (hof.trans hid.symm)⟩
  rw [← Except.ok.inj h]
  cases hlatest : db.latestVersion document.id with
  | none =>
    rw [List.argmax_eq_none.mp hlatest] at hrow
    cases hrow
  | some latest =>
    have hle := List.le_of_mem_argmax hrow hlatest
    show version.version_number < latest.version_number + 1
    omega

/-- A new version that finds a compliant verdict keeps it. -/
theorem not_current_putVersion (hdb : Filed db) {dto : CreateVersionDto} {n : Nat}
    (hread : nextVersionNumber s db dto = .ok n) {review : ManualReview}
    (hlatest : db.latestReview dto.document_id = some review) (hcompliant : review.decision = .compliant) :
    ¬ Current (putVersion s dto n db) := by
  intro hcurrent
  obtain ⟨⟨document, hmem, hid⟩, hbefore⟩ := nextVersionNumber_eq_ok hread
  have hnew := List.mem_map_of_mem (f := fun row => if row.id = dto.document_id then
    { row with current_version := n, status := .ready, extracted_text := extractInitialText s dto.file } else row) hmem
  rw [if_pos hid] at hnew
  rw [← hid] at hlatest
  obtain ⟨version, hversion, hsame, hof, hnumber⟩ := hcurrent _ hnew review hlatest hcompliant
  rcases List.mem_append.mp hversion with hversion | hversion
  · have hlt := hbefore version hversion (hof.trans hid)
    exact absurd hnumber hlt.ne
  · rw [List.mem_singleton.mp hversion] at hsame
    have hbelow := (hdb.reviews review (mem_of_latestReview hlatest).1).2
    rw [← hsame] at hbelow
    exact absurd hbelow (lt_irrefl db.nextId)

/-! ## What is shown -/

def HasCurrentReview (db : DocumentDb) (document : Document) : Prop :=
  ∃ review, db.latestReview document.id = some review ∧ IsOfCurrentVersion db document review

/-- A document that is shown as compliant has its latest review for its current version. -/
structure CurrentVerdict (db : DocumentDb) : Prop where
  shown : ∀ documentIds, ∀ entry ∈ getLatestReviewMap db documentIds, entry.2.decision = some .compliant →
    ∀ document ∈ db.documents, document.id = entry.1 → HasCurrentReview db document
  repository : ∀ s role actorId, ∀ row ∈ getRepository s db role actorId, HasCurrentReview db row.toDocument

theorem latestReviewOf_compliant {id : Nat} (h : (latestReviewOf db id).decision = some .compliant) :
    ∃ review, db.latestReview id = some review ∧ review.decision = .compliant := by
  unfold latestReviewOf at h
  split at h
  · rename_i review hlatest
    exact ⟨review, hlatest, Option.some.inj h⟩
  · cases h

theorem lookup_getLatestReviewMap {documentIds : List Nat} {id : Nat} (hmem : id ∈ documentIds) :
    lookup (getLatestReviewMap db documentIds) id = latestReviewOf db id := by
  have hentry : (id, latestReviewOf db id) ∈ (getLatestReviewMap db documentIds).reverse :=
    List.mem_reverse.mpr (List.mem_map_of_mem hmem)
  unfold lookup
  cases hfound : (getLatestReviewMap db documentIds).reverse.find? fun entry => decide (entry.1 = id) with
  | none => exact absurd (decide_eq_true rfl) (List.find?_eq_none.mp hfound _ hentry)
  | some entry =>
    obtain ⟨other, -, rfl⟩ := List.mem_map.mp (List.mem_reverse.mp (List.mem_of_find?_eq_some hfound))
    have hsame : other = id := of_decide_eq_true (List.find?_some hfound :)
    rw [hsame]
    rfl

theorem currentVerdict_iff : CurrentVerdict db ↔ Current db := by
  constructor
  · intro h document hmem review hlatest hcompliant
    have hentry : (document.id, latestReviewOf db document.id) ∈ getLatestReviewMap db [document.id] :=
      List.mem_singleton_self _
    have hshown : (latestReviewOf db document.id).decision = some .compliant := by
      unfold latestReviewOf
      rw [hlatest]
      exact congrArg some hcompliant
    obtain ⟨other, hother, hcurrent⟩ := h.shown _ _ hentry hshown document hmem rfl
    cases hlatest.symm.trans hother
    exact hcurrent
  · intro h
    have hreview : ∀ document ∈ db.documents, (latestReviewOf db document.id).decision = some .compliant →
        HasCurrentReview db document := by
      intro document hmem hcompliant
      obtain ⟨review, hlatest, hcompliant⟩ := latestReviewOf_compliant hcompliant
      exact ⟨review, hlatest, h document hmem review hlatest hcompliant⟩
    refine ⟨fun documentIds entry hentry hcompliant document hmem hid => ?_, fun s role actorId row hrow => ?_⟩
    · obtain ⟨id, -, rfl⟩ := List.mem_map.mp hentry
      refine hreview document hmem ?_
      rw [hid]
      exact hcompliant
    · obtain ⟨hrow, hcompliant⟩ := List.mem_filter.mp hrow
      obtain ⟨document, hdocument, rfl⟩ := List.mem_map.mp hrow
      refine hreview document (List.mem_filter.mp hdocument).1 ?_
      rw [← lookup_getLatestReviewMap (List.mem_map_of_mem hdocument)]
      exact of_decide_eq_true hcompliant

/-! ## Runs -/

theorem filed_of_run {history : List (Transition DocumentDb Event)} (h : Run documents history db) : Filed db := by
  refine Run.always (P := fun _ => True) ?_ (fun a e b ha hstep _ => ?_) h (fun _ _ => trivial)
  · rintro db ⟨hdocuments, hversions, hreviews⟩
    refine ⟨?_, ?_, ?_, ?_⟩ <;> simp [hdocuments, hversions, hreviews]
  · rw [hstep]
    exact ha.effect (effect_apply a e)

theorem current_of_run {history : List (Transition DocumentDb Event)} (h : Run documents history db)
    (hmeets : ∀ e ∈ history, FindsNoVerdict e.before e.label) : Current db := by
  refine (Run.always (I := fun db => Filed db ∧ Current db) ?_ (fun a e b ha hstep hmeets => ?_) h hmeets).2
  · intro db hinit
    refine ⟨filed_of_run (.init hinit), fun document hmem => ?_⟩
    rw [hinit.1] at hmem
    cases hmem
  · rw [hstep]
    exact ⟨ha.1.effect (effect_apply a e), ha.2.effect ha.1 (effect_apply a e) hmeets⟩

/-- **A compliance verdict belongs to the current version** in every state of a run exactly where no new version finds a
compliant verdict. -/
theorem verdict_is_of_the_current_version {history : List (Transition DocumentDb Event)} (h : Run documents history db) :
    (∀ e ∈ history, CurrentVerdict e.after) ↔ ∀ e ∈ history, FindsNoVerdict e.before e.label := by
  refine ⟨fun hall e he => ?_, fun hmeets e he => ?_⟩
  · obtain ⟨hstep, earlier, hrun, -⟩ := h.reached e he
    have hcurrent := currentVerdict_iff.mp (hall e he)
    rw [hstep] at hcurrent
    unfold FindsNoVerdict
    split
    · rename_i s dto hlabel
      intro n hread review hlatest hcompliant
      rw [hlabel, apply_createVersion_ok hread] at hcurrent
      exact not_current_putVersion (filed_of_run hrun) hread hlatest hcompliant hcurrent
    · trivial
  · obtain ⟨hstep, earlier, hrun, hpast⟩ := h.reached e he
    have hcurrent := current_of_run hrun fun other hother => hmeets other (hpast.subset hother)
    rw [currentVerdict_iff, hstep]
    exact hcurrent.effect (filed_of_run hrun) (effect_apply _ _) (hmeets e he)

/-! ## A version after the review -/

/-- A report is uploaded and found compliant. -/
def approval : List Event :=
  [.operation march2026 (.uploadDocument (februaryReport "IR202602.pdf")),
    .operation march2026 (.submitReview 1 { decision := .compliant, reviewer_id := 9 })]

def secondVersion : Event :=
  .operation march2026 (.createVersion { document_id := 1, uploaded_by := 1, file := ⟨"IR202602.pdf", asciiBytes "%PDF-2.0 "⟩ })

def superseded : DocumentDb := (approval ++ [secondVersion]).foldl DocumentDb.apply assigned

theorem run_assigned : Run documents [] assigned := .init ⟨rfl, rfl, rfl⟩

theorem approved_in_the_first_version : (latestReviewOf (approval.foldl DocumentDb.apply assigned) 1).decision = some .compliant ∧
    ∀ e ∈ trace DocumentDb.apply assigned approval, CurrentVerdict e.after := by
  have hrun := Run.trace DocumentDb.apply (fun _ _ => rfl) approval run_assigned
  rw [List.nil_append] at hrun
  refine ⟨by decide +kernel, (verdict_is_of_the_current_version hrun).mpr ?_⟩
  intro e he
  simp only [approval, trace, List.mem_cons, List.not_mem_nil, or_false] at he
  rcases he with rfl | rfl
  · trivial
  · trivial

/-- The second version is shown with the verdict on the first. -/
theorem verdict_of_the_first_version : ¬ ∀ (history : List (Transition DocumentDb Event)) (db : DocumentDb),
    Run documents history db → CurrentVerdict db := by
  intro hall
  have hrun := Run.trace DocumentDb.apply (fun _ _ => rfl) (approval ++ [secondVersion]) run_assigned
  have hold : ∃ document ∈ superseded.documents, ∃ review ∈ superseded.reviews,
      superseded.latestReview document.id = some review ∧ review.decision = .compliant ∧
        ∀ version ∈ superseded.versions, version.id = review.version_id →
          version.version_number ≠ document.current_version := by
    decide +kernel
  obtain ⟨document, hmem, review, -, hlatest, hcompliant, hnone⟩ := hold
  obtain ⟨version, hversion, hid, -, hnumber⟩ :=
    currentVerdict_iff.mp (hall _ _ hrun) document hmem review hlatest hcompliant
  exact hnone version hversion hid hnumber

end ComplianceHub.Documents
