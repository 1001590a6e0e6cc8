import ComplianceHub.Documents.Cycles
import ComplianceHub.Documents.Verdict

/-!
# References between documents

* `linkDocumentReference`, `unlinkDocumentReference`, `deleteDocument` : the operations on the references, with the
  checks in the order of the code;
* `Linked`, `linked` : the tables with the references, and the system of the runs of all operations;
* `IsLive` : what each operation does to the documents that are not deleted (`live_*`);
* `replaced`, `leaves_uploadDocument` : the returned document that an upload deletes, whether the upload returns or
  raises;
* `references_have_live_documents` : no reference points to a deleted document exactly where neither an archive nor an
  upload deletes a linked one.
-/

namespace ComplianceHub.Documents

open ComplianceHub.Lib

/-! ## References -/

structure DocumentReference where
  source_document_id : Nat
  target_document_id : Nat
  relationship_type : String := "references"
  created_by : Option Nat := none
deriving DecidableEq, Repr

/-- The tables with the references of the documents. -/
structure Linked where
  db : DocumentDb
  references : List DocumentReference := []
  /-- The documents of the links to issuances. -/
  issuances : List Nat := []

abbrev LinkM := EStateM HttpException Linked

structure LinkPayload where
  source_document_id : Nat
  target_document_id : Nat
  created_by : Option Nat := none
  relationship_type : Option String := none

def LinkPayload.reference (payload : LinkPayload) : DocumentReference where
  source_document_id := payload.source_document_id
  target_document_id := payload.target_document_id
  relationship_type := orText (payload.relationship_type.map trim) "references"
  created_by := payload.created_by.filter (· ≠ 0)

def isPair (source_document_id target_document_id : Nat) (row : DocumentReference) : Bool :=
  row.source_document_id = source_document_id && row.target_document_id = target_document_id

def linkable (f : Linked) (payload : LinkPayload) : Except HttpException Unit := do
  check (payload.source_document_id ≠ payload.target_document_id) (.badRequest "A document cannot reference itself.")
  let source ← orNotFound (f.db.document? payload.source_document_id) "Source or target document not found"
  let target ← orNotFound (f.db.document? payload.target_document_id) "Source or target document not found"
  check (source.status = .ready ∧ target.status = .ready) (.badRequest "Only ready/compliant documents can be linked.")
  check (f.references.find? (isPair payload.source_document_id payload.target_document_id) = none)
    (.conflict "Document reference already exists.")
  check (payload.reference.relationship_type.length ≤ 50) internalError

def linkDocumentReference (payload : LinkPayload) : LinkM Unit := do
  reads fun f => linkable f payload
  modify fun f => { f with references := f.references ++ [payload.reference] }

def withoutPair (sourceDocumentId targetDocumentId : Nat) (f : Linked) : Linked :=
  { f with references := f.references.filter fun row => !isPair sourceDocumentId targetDocumentId row }

def unlinkDocumentReference (sourceDocumentId targetDocumentId : Nat) : LinkM Unit := do
  reads fun f => check (f.references.any (isPair sourceDocumentId targetDocumentId) = true)
    (.notFound "Document reference not found")
  modify (withoutPair sourceDocumentId targetDocumentId)

/-- The references from a document and to it. -/
def referenceCount (f : Linked) (id : Nat) : Nat :=
  f.references.countP (fun row => decide (row.source_document_id = id)) +
    f.references.countP (fun row => decide (row.target_document_id = id))

def linkedCount (f : Linked) (id : Nat) : Nat := f.issuances.count id + referenceCount f id

/-- A document that is deleted. The role of the uploader is not loaded, and is none of those that delete for good. -/
def deletable (f : Linked) (id : Nat) : Except HttpException Unit := do
  let document ← orNotFound (f.db.document? id) ("Document with ID " ++ toString id ++ " not found")
  check (¬ 0 < linkedCount f document.id) (.badRequest "Cannot delete a linked document. Unlink mappings first.")
  check ((latestReviewOf f.db document.id).decision = some .compliant)
    (.badRequest "Only compliant documents can be deleted.")

def Linked.softDelete (f : Linked) (id : Nat) : Linked := { f with db := f.db.softDelete id }

def deleteDocument (id : Nat) : LinkM Unit := do
  reads fun f => deletable f id
  modify fun f => f.softDelete id

/-! ## Runs -/

/-- An operation on the documents or on their references, or the links to issuances are set. -/
inductive LinkEvent where
  | documents (e : Event)
  | issuances (links : List Nat)
  | linkDocumentReference (payload : LinkPayload)
  | unlinkDocumentReference (sourceDocumentId targetDocumentId : Nat)
  | deleteDocument (id : Nat)

def Linked.apply (f : Linked) : LinkEvent → Linked
  | .documents e => { f with db := f.db.apply e }
  | .issuances links => { f with issuances := links }
  | .linkDocumentReference payload => leaves (Documents.linkDocumentReference payload) f
  | .unlinkDocumentReference sourceDocumentId targetDocumentId =>
    leaves (Documents.unlinkDocumentReference sourceDocumentId targetDocumentId) f
  | .deleteDocument id => leaves (Documents.deleteDocument id) f

/-- There are no documents and no references yet. -/
def linked : System Linked LinkEvent where
  init f := documents.init f.db ∧ f.references = []
  step f e f' := f' = f.apply e

variable {s : Services} {db db' db₀ : DocumentDb} {dto : UploadDocumentDto} {f : Linked} {id : Nat}

/-! ## Documents that are not deleted -/

def IsLive (db : DocumentDb) (id : Nat) : Prop := ∃ document ∈ db.documents, document.id = id ∧ document.is_deleted = false

theorem live_of_document? {document : Document} (h : db.document? id = some document) : IsLive db id := by
  unfold DocumentDb.document? at h
  exact ⟨document, List.mem_of_find?_eq_some h, of_decide_eq_true (List.find?_some h :)⟩

theorem live_softDelete {deleted : Nat} : IsLive (db.softDelete deleted) id ↔ IsLive db id ∧ id ≠ deleted := by
  constructor
  · intro ⟨document, hmem, hid, hlive⟩
    obtain ⟨⟨hbefore, hlive⟩, hother⟩ := mem_softDelete_live.mp ⟨hmem, hlive⟩
    subst hid
    exact ⟨⟨document, hbefore, rfl, hlive⟩, hother⟩
  · intro ⟨⟨document, hmem, hid, hlive⟩, hother⟩
    subst hid
    obtain ⟨hafter, hlive⟩ := mem_softDelete_live.mpr ⟨⟨hmem, hlive⟩, hother⟩
    exact ⟨document, hafter, rfl, hlive⟩

theorem live_withoutReplaced {existing : Option Document} :
    IsLive (withoutReplaced existing db) id ↔ IsLive db id ∧ ∀ document, existing = some document → id ≠ document.id := by
  cases existing with
  | none => simp [withoutReplaced]
  | some row => simp [withoutReplaced, live_softDelete]

theorem live_putDocument {filed : Submission} :
    IsLive (putDocument s dto filed db) id ↔ IsLive db id ∨ id = db.nextId := by
  constructor
  · intro ⟨document, hmem, hid, hlive⟩
    rcases List.mem_append.mp hmem with hmem | hmem
    · exact .inl ⟨document, hmem, hid, hlive⟩
    · rw [List.mem_singleton.mp hmem] at hid
      exact .inr hid.symm
  · intro h
    rcases h with ⟨document, hmem, hid, hlive⟩ | hid
    · exact ⟨document, List.mem_append_left _ hmem, hid, hlive⟩
    · exact ⟨_, List.mem_append_right _ (List.mem_singleton_self _), hid.symm, rfl⟩

theorem live_updateDocument {changed : Nat} {g : Document → Document}
    (hg : ∀ document, (g document).id = document.id ∧ (g document).is_deleted = document.is_deleted) (h : IsLive db id) :
    IsLive (db.updateDocument changed g) id := by
  obtain ⟨document, hmem, hid, hlive⟩ := h
  refine ⟨_, List.mem_map_of_mem hmem, ?_⟩
  split_ifs
  · rw [(hg document).1, (hg document).2]
    exact ⟨hid, hlive⟩
  · exact ⟨hid, hlive⟩

/-- What is not deleted stays so. -/
def KeepsLive (db db' : DocumentDb) : Prop := ∀ id, IsLive db id → IsLive db' id

theorem KeepsLive.of_documents (h : db'.documents = db.documents) : KeepsLive db db' := by
  intro id ⟨document, hmem, hlive⟩
  rw [← h] at hmem
  exact ⟨document, hmem, hlive⟩

theorem keepsLive_updateStatus (id : Nat) (status : DocumentStatus) : Keeps (KeepsLive db₀) (updateStatus id status) :=
  triple_modify fun _ h other hother => live_updateDocument (fun _ => ⟨rfl, rfl⟩) (h other hother)

theorem keepsLive_addReview {read : DocumentDb → Except HttpException DocumentVersion} (documentId : Nat)
    (decision : ReviewDecision) (remarks : Option String) (reviewer_id : Option Nat) (status : DocumentStatus) :
    Keeps (KeepsLive db₀) (reads read >>= fun version => modify (addReview s version decision remarks reviewer_id) >>=
      fun _ => updateStatus documentId status) :=
  Keeps.reads_bind fun _ => triple_bind (triple_modify fun _ h => h) fun _ => keepsLive_updateStatus documentId status

theorem keepsLive_createVersion (dto : CreateVersionDto) : Keeps (KeepsLive db₀) (createVersion s dto) :=
  Keeps.reads_bind fun _ => triple_modify fun _ h other hother =>
    live_updateDocument (fun _ => ⟨rfl, rfl⟩) (h other hother)

theorem documents_autoReview (versionId : Nat) (remarks : String) :
    (autoReview s versionId remarks db).documents = db.documents := by
  unfold autoReview
  split
  · rfl
  · split <;> rfl

/-! ## Uploads -/

/-- The returned document that gives way to a submission of an assignment. -/
def replacedSubmission (s : Services) (db : DocumentDb) (dto : UploadDocumentDto) : Option Document :=
  if (activeAssignment s db dto).isSome = true then
    (existingSubmission s db dto).filter fun document => isReturned db document.id
  else none

/-- The returned document that gives way to a reportorial document. -/
def replacedReport (s : Services) (db : DocumentDb) (dto : UploadDocumentDto) : Option Document :=
  if s.isFocal dto.user_role = true ∧ dto.reportId ≠ none then
    ((submission s db dto).toOption.bind fun filed => existingReportorial s db dto filed).filter fun document =>
      isReturned db document.id
  else none

/-- The returned document that an upload deletes. -/
def replaced (s : Services) (db : DocumentDb) (dto : UploadDocumentDto) : Option Document :=
  if isValidFile dto.file = false then none
  else if IsFocalSubmission s dto then replacedSubmission s db dto.normalized
  else replacedReport s db dto

/-- The new document is stored, or the upload has raised before. -/
inductive Stores (s : Services) (dto : UploadDocumentDto) (db : DocumentDb) : DocumentDb → Prop
  | raised : Stores s dto db db
  | stored (filed : Submission) : Stores s dto db (putDocument s dto filed db)

theorem leaves_replaceReturned (existing : Option Document) (db : DocumentDb) :
    leaves (replaceReturned existing) db =
      withoutReplaced (existing.filter fun document => isReturned db document.id) db := by
  cases existing with
  | none => rfl
  | some document =>
    unfold replaceReturned
    by_cases hreturned : isReturned db document.id = true
    · rw [leaves_reads (f := fun db => check (isReturned db document.id = true) _) (a := ()) (check_eq_ok.mpr hreturned)]
      simp only [Option.filter, hreturned, if_true, withoutReplaced]
      rfl
    · rw [leaves_reads_error (f := fun db => check (isReturned db document.id = true) _) (if_neg hreturned)]
      simp [Option.filter, hreturned, withoutReplaced]

theorem leaves_validateFocalSubmission (s : Services) (dto : UploadDocumentDto) (db : DocumentDb) :
    leaves (validateFocalSubmission s dto) db = withoutReplaced (replacedSubmission s db dto) db := by
  unfold validateFocalSubmission replacedSubmission
  cases hassigned : activeAssignment s db dto with
  | none =>
    have hread : assignmentOf s db dto =
        .error (.badRequest "No active assignment found for this focal user and document type.") := by
      unfold assignmentOf
      rw [hassigned]
    exact leaves_reads_error (f := fun db => assignmentOf s db dto) hread
  | some assignment =>
    have hread : assignmentOf s db dto = .ok assignment := by
      unfold assignmentOf
      rw [hassigned]
    rw [leaves_reads (f := fun db => assignmentOf s db dto) hread,
      leaves_reads (f := fun db => .ok (existingSubmission s db dto)) rfl]
    -- what is checked of the file name changes nothing
    have hreplaced := leaves_replaceReturned (existingSubmission s db dto) db
    refine leaves_bind (R := fun db' => db' = withoutReplaced _ db) hreplaced fun _ => ?_
    rw [leaves_only_reads]
    exact hreplaced

theorem leaves_validateSubmission (s : Services) (dto : UploadDocumentDto) (db : DocumentDb) :
    leaves (validateSubmission s dto) db =
      if IsFocalSubmission s dto then withoutReplaced (replacedSubmission s db dto.normalized) db else db := by
  unfold validateSubmission
  split_ifs
  · exact leaves_validateFocalSubmission s dto.normalized db
  · rfl

theorem stores_storeDocument (filed : Submission) : Stores s dto db (leaves (storeDocument s dto filed) db) := by
  unfold storeDocument
  by_cases hfits : fits s dto filed = true
  · rw [leaves_reads (f := fun _ => assertFits s dto filed) (a := ()) (check_eq_ok.mpr hfits)]
    exact .stored filed
  · rw [leaves_reads_error (f := fun _ => assertFits s dto filed) (if_neg hfits)]
    exact .raised

theorem leaves_replaceReportorial (filed : Submission) : leaves (replaceReportorial s dto filed) db =
    if s.isFocal dto.user_role = true ∧ dto.reportId ≠ none then
      withoutReplaced ((existingReportorial s db dto filed).filter fun document => isReturned db document.id) db
    else db := by
  unfold replaceReportorial
  split_ifs
  · rw [leaves_reads (f := fun db => .ok (existingReportorial s db dto filed)) rfl]
    exact leaves_replaceReturned _ db
  · rfl

theorem stores_fileDocument (s : Services) (dto : UploadDocumentDto) (db : DocumentDb) :
    Stores s dto (withoutReplaced (replacedReport s db dto) db) (leaves (fileDocument s dto) db) := by
  unfold fileDocument
  rcases hfiled : submission s db dto with e | filed
  · have hnone : replacedReport s db dto = none := by simp [replacedReport, hfiled, Except.toOption]
    rw [leaves_reads_error (f := fun db => submission s db dto) hfiled, hnone]
    exact .raised
  · have hreplaced : leaves (replaceReportorial s dto filed) db = withoutReplaced (replacedReport s db dto) db := by
      rw [leaves_replaceReportorial]
      unfold replacedReport
      rw [hfiled]
      split_ifs <;> rfl
    rw [leaves_reads (f := fun db => submission s db dto) hfiled]
    refine leaves_bind ?_ fun _ => ?_
    · rw [hreplaced]
      exact .raised
    · rw [hreplaced]
      exact stores_storeDocument filed

/-- Only a report type has a reportorial document. -/
theorem replacedReport_of_focal (hfocal : IsFocalSubmission s dto) : replacedReport s db dto = none :=
  if_neg fun hboth => hboth.2 hfocal.2

/-- An upload deletes the document that it replaces, also where it raises afterwards. -/
theorem leaves_uploadDocument (s : Services) (dto : UploadDocumentDto) (db : DocumentDb) :
    Stores s dto (withoutReplaced (replaced s db dto) db) (leaves (uploadDocument s dto) db) := by
  unfold uploadDocument replaced
  by_cases hfile : isValidFile dto.file = true
  · rw [leaves_reads (f := fun _ => assertValidFile dto.file) (a := ()) (check_eq_ok.mpr hfile), if_neg (by simp [hfile])]
    have hvalidated := leaves_validateSubmission s dto db
    split_ifs at hvalidated ⊢ with hfocal
    · refine leaves_bind ?_ fun _ => ?_
      · rw [hvalidated]
        exact .raised
      · have hfiled := stores_fileDocument s dto (withoutReplaced (replacedSubmission s db dto.normalized) db)
        rw [replacedReport_of_focal hfocal] at hfiled
        rw [hvalidated]
        exact hfiled
    · unfold validateSubmission
      rw [if_neg hfocal]
      exact stores_fileDocument s dto db
  · rw [leaves_reads_error (f := fun _ => assertValidFile dto.file) (if_neg hfile), if_pos (by simpa using hfile)]
    exact .raised

theorem mem_of_replaced {document : Document} (h : replaced s db dto = some document) : document ∈ db.documents := by
  unfold replaced replacedSubmission replacedReport at h
  split_ifs at h
  · exact List.mem_of_find?_eq_some (Option.filter_eq_some_iff.mp h).1
  · obtain ⟨filed, -, hfound⟩ := Option.bind_eq_some_iff.mp (Option.filter_eq_some_iff.mp h).1
    exact List.mem_of_find?_eq_some hfound

theorem KeepsLive.upload (hspares : ∀ document, replaced s db dto = some document → id ≠ document.id) (h : IsLive db id) :
    IsLive (leaves (uploadDocument s dto) db) id := by
  have hbefore : IsLive (withoutReplaced (replaced s db dto) db) id := live_withoutReplaced.mpr ⟨h, hspares⟩
  have hstores := leaves_uploadDocument s dto db
  generalize leaves (uploadDocument s dto) db = db' at hstores ⊢
  cases hstores with
  | raised => exact hbefore
  | stored filed => exact live_putDocument.mpr (.inl hbefore)

/-- The document that an upload replaces is deleted. -/
theorem not_live_replaced (hdb : Filed db) {document : Document} (h : replaced s db dto = some document) :
    ¬ IsLive (leaves (uploadDocument s dto) db) document.id := by
  intro hlive
  have hdeleted : ¬ IsLive (withoutReplaced (replaced s db dto) db) document.id :=
    fun hlive => (live_withoutReplaced.mp hlive).2 document h rfl
  have hstores := leaves_uploadDocument s dto db
  generalize leaves (uploadDocument s dto) db = db' at hstores hlive
  cases hstores with
  | raised => exact hdeleted hlive
  | stored filed =>
    rcases live_putDocument.mp hlive with hlive | hnew
    · exact hdeleted hlive
    · have hbelow := hdb.documents document (mem_of_replaced h)
      rw [nextId_withoutReplaced] at hnew
      omega

/-! ## Archives -/

theorem leaves_archiveDocument (documentId actorId : Nat) : leaves (archiveDocument documentId actorId) db =
    if archivable db documentId actorId = .ok () then db.softDelete documentId else db := by
  unfold archiveDocument
  rcases harchivable : archivable db documentId actorId with e | u
  · rw [leaves_reads_error (f := fun db => archivable db documentId actorId) harchivable, if_neg (by simp)]
  · rw [leaves_reads (f := fun db => archivable db documentId actorId) harchivable, if_pos rfl]
    rfl

/-! ## No reference to a deleted document -/

def NoDangling (f : Linked) : Prop :=
  ∀ reference ∈ f.references, IsLive f.db reference.source_document_id ∧ IsLive f.db reference.target_document_id

/-- A reference is from a document or to it. -/
def IsLinked (f : Linked) (id : Nat) : Prop :=
  ∃ reference ∈ f.references, reference.source_document_id = id ∨ reference.target_document_id = id

/-- An archive that passes its checks and an upload that replaces a document find no reference of it. -/
def SparesLinked (f : Linked) : LinkEvent → Prop
  | .documents (.operation _ (.archiveDocument documentId actorId)) =>
    archivable f.db documentId actorId = .ok () → ¬ IsLinked f documentId
  | .documents (.operation s (.uploadDocument dto)) =>
    ∀ document, replaced s f.db dto = some document → ¬ IsLinked f document.id
  | _ => True

theorem noDangling_iff : NoDangling f ↔ ∀ id, IsLinked f id → IsLive f.db id := by
  constructor
  · intro h id ⟨reference, hmem, hid⟩
    rcases hid with rfl | rfl
    · exact (h reference hmem).1
    · exact (h reference hmem).2
  · intro h reference hmem
    exact ⟨h _ ⟨reference, hmem, .inl rfl⟩, h _ ⟨reference, hmem, .inr rfl⟩⟩

theorem keepsLive_apply {e : Event} (hspares : SparesLinked f (.documents e)) (hlinked : IsLinked f id)
    (h : IsLive f.db id) : IsLive (f.db.apply e) id := by
  have hkeep : KeepsLive f.db f.db := fun _ h => h
  cases e with
  | settings _ _ => exact h
  | operation s op =>
    cases op with
    | uploadDocument dto =>
      refine KeepsLive.upload (fun document hreplaced hid => ?_) h
      exact hspares document hreplaced (hid ▸ hlinked)
    | createVersion dto => exact (keepsLive_createVersion dto).leaves hkeep id h
    | submitReview documentId dto => exact (keepsLive_addReview _ _ _ _ _).leaves hkeep id h
    | returnDocumentForRevision payload => exact (keepsLive_addReview _ _ _ _ _).leaves hkeep id h
    | computeMetricsAndAutoReview versionId failed =>
      cases failed with
      | none => exact h
      | some remarks => exact KeepsLive.of_documents (documents_autoReview versionId remarks) id h
    | updateStatus changed status => exact (keepsLive_updateStatus changed status).leaves hkeep id h
    | archiveDocument documentId actorId =>
      show IsLive (leaves (archiveDocument documentId actorId) f.db) id
      rw [leaves_archiveDocument]
      split_ifs with harchivable
      · refine live_softDelete.mpr ⟨h, fun hid => hspares harchivable ?_⟩
        exact hid ▸ hlinked
      · exact h

theorem linkable_eq_ok {payload : LinkPayload} (h : linkable f payload = .ok ()) :
    IsLive f.db payload.source_document_id ∧ IsLive f.db payload.target_document_id := by
  obtain ⟨_, -, h⟩ := bind_eq_ok.mp h
  obtain ⟨source, hsource, h⟩ := bind_eq_ok.mp h
  obtain ⟨target, htarget, -⟩ := bind_eq_ok.mp h
  exact ⟨live_of_document? (orNotFound_eq_ok hsource), live_of_document? (orNotFound_eq_ok htarget)⟩

/-- A document that `deleteDocument` deletes has no references. -/
theorem deletable_eq_ok (h : deletable f id = .ok ()) : ¬ IsLinked f id := by
  obtain ⟨document, hdocument, h⟩ := bind_eq_ok.mp h
  obtain ⟨_, hcount, -⟩ := bind_eq_ok.mp h
  have hnone := check_eq_ok.mp hcount
  rw [(document?_eq_some (orNotFound_eq_ok hdocument)).2] at hnone
  unfold linkedCount referenceCount at hnone
  intro ⟨reference, hmem, hid⟩
  rcases hid with hid | hid
  · have hpos : 0 < f.references.countP (fun row => decide (row.source_document_id = id)) :=
      List.countP_pos_iff.mpr ⟨reference, hmem, decide_eq_true hid⟩
    omega
  · have hpos : 0 < f.references.countP (fun row => decide (row.target_document_id = id)) :=
      List.countP_pos_iff.mpr ⟨reference, hmem, decide_eq_true hid⟩
    omega

theorem NoDangling.link (h : NoDangling f) (payload : LinkPayload) :
    NoDangling (leaves (linkDocumentReference payload) f) := by
  unfold linkDocumentReference
  rcases hlinkable : linkable f payload with e | u
  · rw [leaves_reads_error (f := fun f => linkable f payload) hlinkable]
    exact h
  · rw [leaves_reads (f := fun f => linkable f payload) hlinkable]
    intro reference hmem
    rcases List.mem_append.mp hmem with hmem | hmem
    · exact h reference hmem
    · rw [List.mem_singleton.mp hmem]
      exact linkable_eq_ok (f := f) hlinkable

theorem NoDangling.unlink (h : NoDangling f) (sourceDocumentId targetDocumentId : Nat) :
    NoDangling (leaves (unlinkDocumentReference sourceDocumentId targetDocumentId) f) := by
  have hkeeps : Keeps NoDangling (unlinkDocumentReference sourceDocumentId targetDocumentId) :=
    Keeps.reads_bind fun _ => triple_modify fun _ h reference hmem => h reference (List.mem_of_mem_filter hmem)
  exact hkeeps.leaves h

theorem NoDangling.delete (h : NoDangling f) (id : Nat) : NoDangling (leaves (deleteDocument id) f) := by
  unfold deleteDocument
  rcases hdeletable : deletable f id with e | u
  · rw [leaves_reads_error (f := fun f => deletable f id) hdeletable]
    exact h
  · rw [leaves_reads (f := fun f => deletable f id) hdeletable]
    refine noDangling_iff.mpr fun other hlinked => live_softDelete.mpr ⟨noDangling_iff.mp h other hlinked, fun hid => ?_⟩
    exact deletable_eq_ok hdeletable (hid ▸ hlinked)

/-- A step that spares the linked documents leaves no reference to a deleted one. -/
theorem NoDangling.apply {e : LinkEvent} (h : NoDangling f) (hspares : SparesLinked f e) : NoDangling (f.apply e) := by
  cases e with
  | documents e =>
    exact noDangling_iff.mpr fun id hlinked => keepsLive_apply hspares hlinked (noDangling_iff.mp h id hlinked)
  | issuances _ => exact h
  | linkDocumentReference payload => exact h.link payload
  | unlinkDocumentReference sourceDocumentId targetDocumentId => exact h.unlink sourceDocumentId targetDocumentId
  | deleteDocument id => exact h.delete id

/-- A step that deletes a linked document leaves a reference to it. -/
theorem spares_of_noDangling {e : LinkEvent} (hdb : Filed f.db) (h : NoDangling (f.apply e)) : SparesLinked f e := by
  unfold SparesLinked
  split
  · rename_i s documentId actorId
    intro harchivable hlinked
    have hlive : IsLive (leaves (archiveDocument documentId actorId) f.db) documentId :=
      noDangling_iff.mp h documentId hlinked
    rw [leaves_archiveDocument, if_pos harchivable] at hlive
    exact (live_softDelete.mp hlive).2 rfl
  · intro document hreplaced hlinked
    exact not_live_replaced hdb hreplaced (noDangling_iff.mp h document.id hlinked)
  · trivial

/-! ## Runs -/

theorem Filed.linked {e : LinkEvent} (h : Filed f.db) : Filed (f.apply e).db := by
  have hkeeps : ∀ {m : LinkM Unit}, Keeps (fun f => Filed f.db) m → Filed (leaves m f).db := fun hm => hm.leaves h
  cases e with
  | documents e => exact h.effect (effect_apply f.db e)
  | issuances _ => exact h
  | linkDocumentReference payload => exact hkeeps (Keeps.reads_bind fun _ => triple_modify fun _ h => h)
  | unlinkDocumentReference _ _ => exact hkeeps (Keeps.reads_bind fun _ => triple_modify fun _ h => h)
  | deleteDocument id =>
    exact hkeeps (Keeps.reads_bind fun _ => triple_modify fun _ h => h.write (write_softDelete id))

theorem filed_of_linked {history : List (Transition Linked LinkEvent)} (h : Run linked history f) : Filed f.db := by
  refine Run.always (I := fun f => Filed f.db) (P := fun _ => True) (fun a hinit => ?_) (fun a e b ha hstep _ => ?_) h
    fun _ _ => trivial
  · exact filed_of_run (.init hinit.1)
  · rw [hstep]
    exact ha.linked

theorem noDangling_of_run {history : List (Transition Linked LinkEvent)} (h : Run linked history f)
    (hspares : ∀ e ∈ history, SparesLinked e.before e.label) : NoDangling f := by
  refine Run.always (fun a hinit => ?_) (fun a e b ha hstep hmeets => ?_) h hspares
  · intro reference hmem
    rw [hinit.2] at hmem
    cases hmem
  · rw [hstep]
    exact ha.apply hmeets

/-- **References have live documents** in every state of a run exactly where neither an archive nor an upload deletes a
document that a reference is from or to. -/
theorem references_have_live_documents {history : List (Transition Linked LinkEvent)} (h : Run linked history f) :
    (∀ e ∈ history, NoDangling e.after) ↔ ∀ e ∈ history, SparesLinked e.before e.label := by
  constructor
  · intro hall e he
    obtain ⟨hstep, earlier, hrun, -⟩ := h.reached e he
    have hafter := hall e he
    rw [hstep] at hafter
    exact spares_of_noDangling (filed_of_linked hrun) hafter
  · intro hspares e he
    obtain ⟨hstep, earlier, hrun, hpast⟩ := h.reached e he
    have hbefore := noDangling_of_run hrun fun other hother => hspares other (hpast.subset hother)
    rw [hstep]
    exact hbefore.apply (hspares e he)

/-! ## A linked report that is returned -/

def noReferences : Linked := ⟨assigned, [], []⟩

theorem run_noReferences : Run linked [] noReferences := .init ⟨⟨rfl, rfl, rfl⟩, rfl⟩

/-- Two reports are processed, and the first is linked to the second. -/
def linkedReports : List LinkEvent :=
  [.documents (.operation march2026 (.uploadDocument (monthlyReport "IR202601.pdf" "01"))),
    .documents (.operation march2026 (.uploadDocument (monthlyReport "IR202602.pdf" "02"))),
    .documents (.operation march2026 (.updateStatus 1 .ready)),
    .documents (.operation march2026 (.updateStatus 3 .ready)),
    .linkDocumentReference { source_document_id := 1, target_document_id := 3 }]

def returnFirst : LinkEvent :=
  .documents (.operation march2026 (.returnDocumentForRevision
    { document_id := 1, remarks := some "The table is missing.", returned_by := 9 }))

def archiveFirst : LinkEvent := .documents (.operation march2026 (.archiveDocument 1 1))

/-- The first report again, in the place of the returned one. -/
def uploadFirstAgain : LinkEvent := .documents (.operation march2026 (.uploadDocument (monthlyReport "IR202601.pdf" "01")))

theorem spares_of_no_references {e : LinkEvent} (hnone : f.references = []) : SparesLinked f e := by
  have hlinked : ∀ id, ¬ IsLinked f id := by
    intro id ⟨reference, hmem, _⟩
    rw [hnone] at hmem
    cases hmem
  unfold SparesLinked
  split
  · exact fun _ => hlinked _
  · exact fun document _ => hlinked document.id
  · trivial

/-- The reference is removed before its document is replaced. -/
def unlinkedReport : List LinkEvent :=
  linkedReports ++ [returnFirst, .unlinkDocumentReference 1 3, uploadFirstAgain]

theorem unlinked_before_the_upload :
    ((unlinkedReport.foldl Linked.apply noReferences).db.documents.map fun row => (row.id, row.is_deleted)) =
        [(1, true), (3, false), (6, false)] ∧
      ∀ e ∈ trace Linked.apply noReferences unlinkedReport, NoDangling e.after := by
  have hrun := Run.trace Linked.apply (fun _ _ => rfl) unlinkedReport run_noReferences
  refine ⟨by decide +kernel, (references_have_live_documents hrun).mpr fun e he => ?_⟩
  simp only [unlinkedReport, linkedReports, returnFirst, uploadFirstAgain, List.cons_append, List.nil_append, trace, List.mem_cons,
    List.not_mem_nil, or_false] at he
  rcases he with rfl | rfl | rfl | rfl | rfl | rfl | rfl | rfl
  · exact spares_of_no_references rfl
  · exact spares_of_no_references rfl
  · trivial
  · trivial
  · trivial
  · trivial
  · trivial
  · exact spares_of_no_references (by decide +kernel)

/-- The returned report is archived with its reference. -/
theorem archived_with_its_reference : ¬ ∀ (history : List (Transition Linked LinkEvent)) (f : Linked),
    Run linked history f → NoDangling f := by
  intro hall
  have hrun := Run.trace Linked.apply (fun _ _ => rfl) (linkedReports ++ [returnFirst, archiveFirst]) run_noReferences
  have hdeleted : ∃ reference ∈ ((linkedReports ++ [returnFirst, archiveFirst]).foldl Linked.apply noReferences).references,
      ∀ document ∈ ((linkedReports ++ [returnFirst, archiveFirst]).foldl Linked.apply noReferences).db.documents,
        document.id = reference.source_document_id → document.is_deleted = true := by
    decide +kernel
  obtain ⟨reference, hmem, hdeleted⟩ := hdeleted
  obtain ⟨document, hdocument, hid, hlive⟩ := (hall _ _ hrun reference hmem).1
  exact absurd (hdeleted document hdocument hid) (by rw [hlive]; exact Bool.false_ne_true)

end ComplianceHub.Documents
