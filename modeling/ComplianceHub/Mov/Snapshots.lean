import ComplianceHub.Common
import ComplianceHub.Lib.Rows
import ComplianceHub.Lib.Run

/-!
# Approved report snapshots

* `MovArtifact`, `MovDb` : the artifacts; `create`, `update`, `remove` : the operations on them;
* `Register`, `register` : the artifacts with the reports that have ever been approved, and the runs of the operations;
* `Hashed` : a generated report, and one that was approved, has the hash of its content;
* `Spares` : an operation leaves the snapshot of a report that was approved and is not any more;
* `a_superseded_report_is_rewritten` : one that does not, rewrites it;
* `approved_reports_are_immutable` : the hashes are right in every run, and the snapshots of approved reports stay in the
  runs that spare them.

Metadata are their JSON texts.
-/

namespace ComplianceHub.Mov

open ComplianceHub.Lib

/-! ## Artifacts -/

structure MovArtifact where
  id : Nat
  artifact_type : String
  scope : String := "regional"
  title : String
  period_year : Int
  quarter : Option Int := none
  unit_id : Option Int := none
  status : String := "draft"
  content_markdown : String
  metadata_json : Option String := none
  content_sha256 : Option String := none
  finalized_at : Option Int := none
  created_by : Option Int := none
deriving DecidableEq, Repr

structure MovDb where
  rows : List MovArtifact := []
  /-- Every identifier given so far is below it. -/
  nextId : Nat := 0
deriving DecidableEq, Repr

structure CreateMovArtifactDto where
  artifact_type : String
  scope : Option String := none
  title : String
  period_year : Int
  quarter : Option Int := none
  unit_id : Option Int := none
  status : Option String := none
  content_markdown : String
  metadata_json : Option String := none
deriving DecidableEq, Repr

/-- A field that is none is left as it is. -/
structure UpdateMovArtifactDto where
  artifact_type : Option String := none
  scope : Option String := none
  title : Option String := none
  period_year : Option Int := none
  quarter : Option (Option Int) := none
  unit_id : Option (Option Int) := none
  status : Option String := none
  content_markdown : Option String := none
  metadata_json : Option (Option String) := none
deriving DecidableEq, Repr

/-- `value || fallback` -/
def orText (value : Option String) (fallback : String) : String := (value.filter (· ≠ "")).getD fallback

def MovArtifact.isGeneratedReport (row : MovArtifact) : Bool := row.artifact_type = "generated_report"

/-- A report that is neither changed nor deleted. -/
def MovArtifact.isApproved (row : MovArtifact) : Bool := row.isGeneratedReport && row.status = "approved"

namespace MovDb

variable (db : MovDb)

def getById (id : Nat) : Except HttpException MovArtifact :=
  match db.rows.find? fun row => decide (row.id = id) with
  | some row => .ok row
  | none => .error (.notFound "MoV artifact not found")

/-- A save of an entity with an identifier. -/
def save (row : MovArtifact) : MovDb :=
  { db with rows := db.rows.map fun old => if old.id = row.id then row else old }

def delete (id : Nat) : MovDb := { db with rows := db.rows.filter fun row => decide (row.id ≠ id) }

end MovDb

section
variable (sha256 : String → String) (now : Int)

/-- The row of a new artifact. -/
def newArtifact (dto : CreateMovArtifactDto) (createdBy : Option Int) (id : Nat) : MovArtifact :=
  let isGeneratedReport := dto.artifact_type = "generated_report"
  let requestedStatus := orText dto.status "draft"
  { id
    artifact_type := dto.artifact_type
    scope := orText dto.scope "regional"
    title := dto.title
    period_year := dto.period_year
    quarter := dto.quarter
    unit_id := dto.unit_id
    status := requestedStatus
    content_markdown := dto.content_markdown
    metadata_json := dto.metadata_json
    content_sha256 := if isGeneratedReport then some (sha256 dto.content_markdown) else none
    finalized_at := if isGeneratedReport ∧ requestedStatus = "approved" then some now else none
    created_by := createdBy }

def create (db : MovDb) (dto : CreateMovArtifactDto) (createdBy : Option Int) : Except HttpException MovDb := do
  check (dto.artifact_type = "generated_report" → orText dto.status "draft" ∈ ["draft", "reviewed", "approved"])
    (.badRequest "Generated reports must be Draft, Reviewed, or Approved")
  pure { rows := db.rows ++ [newArtifact sha256 now dto createdBy db.nextId], nextId := db.nextId + 1 }

/-- `Object.assign(row, dto)` -/
def assign (row : MovArtifact) (dto : UpdateMovArtifactDto) : MovArtifact :=
  { row with
    artifact_type := dto.artifact_type.getD row.artifact_type
    scope := dto.scope.getD row.scope
    title := dto.title.getD row.title
    period_year := dto.period_year.getD row.period_year
    quarter := dto.quarter.getD row.quarter
    unit_id := dto.unit_id.getD row.unit_id
    status := dto.status.getD row.status
    content_markdown := dto.content_markdown.getD row.content_markdown
    metadata_json := dto.metadata_json.getD row.metadata_json }

/-- A generated report with its hash, and its date where it is approved. -/
def finalize (row : MovArtifact) : MovArtifact :=
  if row.isGeneratedReport then
    { row with
      content_sha256 := some (sha256 row.content_markdown)
      finalized_at := if row.status = "approved" then some now else none }
  else row

/-- The entity that is saved. -/
def updated (row : MovArtifact) (dto : UpdateMovArtifactDto) : Except HttpException MovArtifact :=
  if row.isApproved then
    if dto = { status := some "superseded" } then .ok { row with status := "superseded" }
    else .error (.badRequest
      "Approved report snapshots are immutable. Create a new report or mark this one Superseded.")
  else do
    check ((assign row dto).isGeneratedReport = true →
      (assign row dto).status ∈ ["draft", "reviewed", "approved", "superseded"])
      (.badRequest "Generated report status is invalid")
    pure (finalize sha256 now (assign row dto))

def update (db : MovDb) (id : Nat) (dto : UpdateMovArtifactDto) : Except HttpException MovDb := do
  let row ← db.getById id
  let row ← updated sha256 now row dto
  pure (db.save row)

def remove (db : MovDb) (id : Nat) : Except HttpException MovDb := do
  let row ← db.getById id
  check (row.isApproved = false) (.badRequest "Approved report snapshots cannot be deleted")
  pure (db.delete row.id)

end

/-! ## Runs -/

inductive MovOperation where
  | create (dto : CreateMovArtifactDto) (createdBy : Option Int)
  | update (id : Nat) (dto : UpdateMovArtifactDto)
  | remove (id : Nat)
deriving DecidableEq, Repr

def MovOperation.run (sha256 : String → String) (now : Int) (db : MovDb) : MovOperation → Except HttpException MovDb
  | create dto createdBy => Mov.create sha256 now db dto createdBy
  | update id dto => Mov.update sha256 now db id dto
  | remove id => Mov.remove db id

/-- The artifacts, and the identifiers of the reports that have been approved. -/
structure Register where
  db : MovDb
  approved : List Nat
deriving DecidableEq, Repr

def approvedIds (db : MovDb) : List Nat := (db.rows.filter MovArtifact.isApproved).map (·.id)

/-- An operation that raises an exception has written nothing. -/
def Register.apply (sha256 : String → String) (r : Register) (l : Int × MovOperation) : Register :=
  match l.2.run sha256 l.1 r.db with
  | .ok db => ⟨db, r.approved ++ approvedIds db⟩
  | .error _ => r

/-- The operations at their times, from a table without reports. -/
def register (sha256 : String → String) : System Register (Int × MovOperation) where
  init r := (r.db.rows.map (·.id)).Nodup ∧ (∀ row ∈ r.db.rows, row.id < r.db.nextId ∧ row.isGeneratedReport = false) ∧
    r.approved = []
  step r l r' := r' = r.apply sha256 l

/-! ## Snapshots -/

structure Snapshot where
  title : String
  content_markdown : String
  content_sha256 : Option String
  metadata_json : Option String
  period_year : Int
  quarter : Option Int
deriving DecidableEq, Repr

def MovArtifact.snapshot (row : MovArtifact) : Snapshot :=
  { title := row.title, content_markdown := row.content_markdown, content_sha256 := row.content_sha256
    metadata_json := row.metadata_json, period_year := row.period_year, quarter := row.quarter }

/-- A row is stored, and has the snapshot of an earlier one. -/
structure KeepsSnapshot (row : MovArtifact) (db : MovDb) : Prop where
  stored : row.id ∈ db.rows.map (·.id)
  same : ∀ row' ∈ db.rows, row'.id = row.id → row'.snapshot = row.snapshot

/-- A body changes no title, content, metadata or period. -/
def UpdateMovArtifactDto.leaves (dto : UpdateMovArtifactDto) (row : MovArtifact) : Prop :=
  (∀ title ∈ dto.title, title = row.title) ∧ (∀ content ∈ dto.content_markdown, content = row.content_markdown) ∧
    (∀ metadata ∈ dto.metadata_json, metadata = row.metadata_json) ∧ (∀ year ∈ dto.period_year, year = row.period_year) ∧
    ∀ quarter ∈ dto.quarter, quarter = row.quarter

instance (dto : UpdateMovArtifactDto) (row : MovArtifact) : Decidable (dto.leaves row) :=
  inferInstanceAs (Decidable (_ ∧ _ ∧ _ ∧ _ ∧ _))

abbrev MovTransition := Transition Register (Int × MovOperation)

/-- A report that was approved, and is not any more, is not removed, and an update leaves its snapshot. -/
def Spares (e : MovTransition) : Prop :=
  match e.label.2 with
  | .create _ _ => True
  | .update id dto => id ∈ e.before.approved →
      ∀ row ∈ e.before.db.rows, row.id = id → row.isApproved = true ∨ dto.leaves row
  | .remove id => id ∈ e.before.approved → ∀ row ∈ e.before.db.rows, row.id = id → row.isApproved = true

instance (e : MovTransition) : Decidable (Spares e) := by
  unfold Spares
  split <;> infer_instance

/-! ## Changes -/

section
variable {sha256 : String → String} {now : Int} {db db' : MovDb} {row saved : MovArtifact} {dto : UpdateMovArtifactDto}

/-- The hash of the content. -/
def HasHash (sha256 : String → String) (row : MovArtifact) : Prop := row.content_sha256 = some (sha256 row.content_markdown)

/-- What an operation makes of the table. -/
inductive MovChange (sha256 : String → String) (db : MovDb) : MovOperation → MovDb → Prop
  | creates {row : MovArtifact} {dto : CreateMovArtifactDto} {createdBy : Option Int} (hid : row.id = db.nextId)
      (hhash : row.isGeneratedReport = true → HasHash sha256 row) :
      MovChange sha256 db (.create dto createdBy) { rows := db.rows ++ [row], nextId := db.nextId + 1 }
  | saves {row saved : MovArtifact} {now : Int} {dto : UpdateMovArtifactDto} (hrow : row ∈ db.rows)
      (hsaved : updated sha256 now row dto = .ok saved) : MovChange sha256 db (.update row.id dto) (db.save saved)
  | removes {row : MovArtifact} (hrow : row ∈ db.rows) (happroved : row.isApproved = false) :
      MovChange sha256 db (.remove row.id) (db.delete row.id)

theorem getById_eq_ok {id : Nat} (h : db.getById id = .ok row) : row ∈ db.rows ∧ row.id = id := by
  unfold MovDb.getById at h
  split at h
  · rename_i found hfound
    cases h
    exact ⟨List.mem_of_find?_eq_some hfound, of_decide_eq_true (List.find?_some hfound :)⟩
  · cases h

theorem change_of_run {op : MovOperation} (h : op.run sha256 now db = .ok db') : MovChange sha256 db op db' := by
  cases op with
  | create dto createdBy =>
    obtain ⟨_, -, h⟩ := bind_eq_ok.mp h
    cases h
    refine .creates rfl fun hgenerated => ?_
    have htype : dto.artifact_type = "generated_report" := of_decide_eq_true hgenerated
    exact if_pos htype
  | update id dto =>
    obtain ⟨row, hrow, h⟩ := bind_eq_ok.mp h
    obtain ⟨saved, hsaved, h⟩ := bind_eq_ok.mp h
    cases h
    obtain ⟨hmem, rfl⟩ := getById_eq_ok hrow
    exact .saves hmem hsaved
  | remove id =>
    obtain ⟨row, hrow, h⟩ := bind_eq_ok.mp h
    obtain ⟨_, happroved, h⟩ := bind_eq_ok.mp h
    cases h
    obtain ⟨hmem, rfl⟩ := getById_eq_ok hrow
    exact .removes hmem (check_eq_ok.mp happroved)

/-- An update only marks an approved report as superseded. -/
theorem updated_eq_ok (h : updated sha256 now row dto = .ok saved) :
    (row.isApproved = true ∧ saved = { row with status := "superseded" }) ∨
      row.isApproved = false ∧ saved = finalize sha256 now (assign row dto) := by
  unfold updated at h
  split_ifs at h with happroved hsuperseded
  · cases h
    exact .inl ⟨happroved, rfl⟩
  · obtain ⟨_, -, h⟩ := bind_eq_ok.mp h
    cases h
    exact .inr ⟨Bool.not_eq_true _ ▸ happroved, rfl⟩

theorem finalize_id (row : MovArtifact) : (finalize sha256 now row).id = row.id := by
  unfold finalize
  split_ifs <;> rfl

theorem updated_id (h : updated sha256 now row dto = .ok saved) : saved.id = row.id := by
  rcases updated_eq_ok h with ⟨-, rfl⟩ | ⟨-, rfl⟩
  · rfl
  · exact finalize_id _

theorem hasHash_finalize (h : (finalize sha256 now row).isGeneratedReport = true) :
    HasHash sha256 (finalize sha256 now row) := by
  by_cases hgenerated : row.isGeneratedReport = true
  · rw [finalize, if_pos hgenerated]
    rfl
  · rw [finalize, if_neg hgenerated] at h
    exact absurd h hgenerated

theorem hasHash_updated (h : updated sha256 now row dto = .ok saved)
    (hrow : row.isGeneratedReport = true → HasHash sha256 row) (hgenerated : saved.isGeneratedReport = true) :
    HasHash sha256 saved := by
  rcases updated_eq_ok h with ⟨-, rfl⟩ | ⟨-, rfl⟩
  · exact hrow hgenerated
  · exact hasHash_finalize hgenerated

theorem snapshot_assign (h : dto.leaves row) : (assign row dto).snapshot = row.snapshot := by
  have hgetD : ∀ {α : Type} {field : Option α} {value : α}, (∀ new ∈ field, new = value) → field.getD value = value := by
    intro α field value hfield
    cases field with
    | none => rfl
    | some new => exact hfield new rfl
  obtain ⟨htitle, hcontent, hmetadata, hyear, hquarter⟩ := h
  unfold MovArtifact.snapshot assign
  rw [hgetD htitle, hgetD hcontent, hgetD hmetadata, hgetD hyear, hgetD hquarter]

theorem snapshot_finalize (h : HasHash sha256 row) : (finalize sha256 now row).snapshot = row.snapshot := by
  by_cases hgenerated : row.isGeneratedReport = true
  · rw [finalize, if_pos hgenerated]
    unfold MovArtifact.snapshot
    rw [show row.content_sha256 = some (sha256 row.content_markdown) from h]
  · rw [finalize, if_neg hgenerated]

/-- An update of an approved report, or of one whose snapshot it leaves. -/
theorem snapshot_updated (h : updated sha256 now row dto = .ok saved) (hhash : HasHash sha256 row)
    (hspares : row.isApproved = true ∨ dto.leaves row) : saved.snapshot = row.snapshot := by
  rcases updated_eq_ok h with ⟨-, rfl⟩ | ⟨hopen, rfl⟩
  · rfl
  · rcases hspares with happroved | hleaves
    · rw [hopen] at happroved
      cases happroved
    · have hassigned := snapshot_assign hleaves
      rw [snapshot_finalize, hassigned]
      unfold HasHash at hhash ⊢
      rw [show (assign row dto).content_sha256 = row.content_sha256 from rfl,
        show (assign row dto).content_markdown = row.content_markdown from congrArg Snapshot.content_markdown hassigned]
      exact hhash

end

/-! ## Invariants -/

/-- Identifiers are unique and known, and generated reports have their hashes. -/
structure Sound (sha256 : String → String) (r : Register) : Prop where
  nodup : (r.db.rows.map (·.id)).Nodup
  fresh : ∀ row ∈ r.db.rows, row.id < r.db.nextId
  past : ∀ id ∈ r.approved, id < r.db.nextId
  known : ∀ row ∈ r.db.rows, row.isApproved = true → row.id ∈ r.approved
  hashed : ∀ row ∈ r.db.rows, row.isGeneratedReport = true → HasHash sha256 row

/-- Reports that have been approved have their hashes. -/
def Hashed (sha256 : String → String) (r : Register) : Prop :=
  ∀ row ∈ r.db.rows, row.id ∈ r.approved → HasHash sha256 row

section
variable {sha256 : String → String} {db db' : MovDb} {op : MovOperation} {saved : MovArtifact}

theorem mem_save {row : MovArtifact} (h : row ∈ (db.save saved).rows) :
    row = saved ∨ row ∈ db.rows ∧ row.id ≠ saved.id := by
  rcases mem_change (f := fun _ => saved) h with ⟨_, _, _, hsaved⟩ | hkept
  · exact .inl hsaved
  · exact .inr hkept

theorem ids_save : (db.save saved).rows.map (·.id) = db.rows.map (·.id) := by
  unfold MovDb.save
  exact map_column_of_change fun _ _ hid => hid.symm

/-- The identifiers after a change. -/
theorem MovChange.ids (h : MovChange sha256 db op db') :
    db.nextId ≤ db'.nextId ∧ (db'.rows.map (·.id) = db.rows.map (·.id) ++ [db.nextId] ∧ db.nextId < db'.nextId ∨
      (db'.rows.map (·.id)).Sublist (db.rows.map (·.id))) := by
  cases h with
  | creates hid _ =>
    refine ⟨Nat.le_succ _, .inl ⟨?_, Nat.lt_succ_self _⟩⟩
    rw [List.map_append, List.map_singleton, hid]
  | saves _ hsaved => exact ⟨le_refl _, .inr (by rw [ids_save])⟩
  | removes _ _ => exact ⟨le_refl _, .inr (List.filter_sublist.map _)⟩

/-- A row after a change is one of before, or is the one the change has written. -/
theorem MovChange.hashed (h : MovChange sha256 db op db')
    (hdb : ∀ row ∈ db.rows, row.isGeneratedReport = true → HasHash sha256 row) :
    ∀ row ∈ db'.rows, row.isGeneratedReport = true → HasHash sha256 row := by
  intro row hrow hgenerated
  cases h with
  | creates _ hhash =>
    rcases List.mem_append.mp hrow with hrow | hrow
    · exact hdb row hrow hgenerated
    · rw [List.mem_singleton.mp hrow] at hgenerated ⊢
      exact hhash hgenerated
  | saves hmem hsaved =>
    rcases mem_save hrow with rfl | ⟨hrow, -⟩
    · exact hasHash_updated hsaved (hdb _ hmem) hgenerated
    · exact hdb row hrow hgenerated
  | removes _ _ => exact hdb row (List.mem_filter.mp hrow).1 hgenerated

theorem Sound.change {approved : List Nat} (h : Sound sha256 ⟨db, approved⟩) (hchange : MovChange sha256 db op db') :
    Sound sha256 ⟨db', approved ++ approvedIds db'⟩ := by
  obtain ⟨hnext, hids⟩ := hchange.ids
  have hfresh : ∀ id ∈ db'.rows.map (·.id), id < db'.nextId := by
    have hold : ∀ id ∈ db.rows.map (·.id), id < db.nextId := by
      intro id hid
      obtain ⟨row, hrow, rfl⟩ := List.mem_map.mp hid
      exact h.fresh row hrow
    intro id hid
    rcases hids with ⟨heq, hlt⟩ | hsublist
    · rw [heq] at hid
      rcases List.mem_append.mp hid with hid | hid
      · exact (hold id hid).trans_le hnext
      · rw [List.mem_singleton.mp hid]
        exact hlt
    · exact (hold id (hsublist.subset hid)).trans_le hnext
  refine ⟨?_, fun row hrow => hfresh _ (List.mem_map_of_mem hrow), fun id hid => ?_, fun row hrow happroved => ?_,
    hchange.hashed h.hashed⟩
  · rcases hids with ⟨heq, -⟩ | hsublist
    · show (db'.rows.map (·.id)).Nodup
      rw [heq, List.nodup_append]
      refine ⟨h.nodup, List.nodup_singleton _, fun id hid other hother => ?_⟩
      rw [List.mem_singleton.mp hother]
      obtain ⟨row, hrow, rfl⟩ := List.mem_map.mp hid
      exact (h.fresh row hrow).ne
    · exact hsublist.nodup h.nodup
  · rcases List.mem_append.mp hid with hid | hid
    · exact (h.past id hid).trans_le hnext
    · obtain ⟨row, hrow, rfl⟩ := List.mem_map.mp hid
      exact hfresh _ (List.mem_map_of_mem (List.mem_filter.mp hrow).1)
  · exact List.mem_append_right _ (List.mem_map_of_mem (List.mem_filter.mpr ⟨hrow, happroved⟩))

end

section
variable {sha256 : String → String} {history : List MovTransition} {r r' : Register} {l : Int × MovOperation}

/-- What a step does: a change, or nothing. -/
theorem change_of_step (h : (register sha256).step r l r') :
    r' = r ∨ ∃ db', MovChange sha256 r.db l.2 db' ∧ r' = ⟨db', r.approved ++ approvedIds db'⟩ := by
  have h : r' = r.apply sha256 l := h
  unfold Register.apply at h
  split at h
  · rename_i db hrun
    exact .inr ⟨db, change_of_run hrun, h⟩
  · exact .inl h

theorem Sound.step (h : Sound sha256 r) (hs : (register sha256).step r l r') : Sound sha256 r' := by
  rcases change_of_step hs with rfl | ⟨db', hchange, rfl⟩
  · exact h
  · exact h.change hchange

theorem sound_of_run (h : Run (register sha256) history r) : Sound sha256 r := by
  refine Run.always (P := fun _ => True) (fun r hr => ?_) (fun _ _ _ h hs _ => h.step hs) h fun _ _ => trivial
  refine ⟨hr.1, fun row hrow => (hr.2.1 row hrow).1, fun id hid => ?_, fun row hrow happroved => ?_,
    fun row hrow hgenerated => ?_⟩
  · rw [hr.2.2] at hid
    cases hid
  · rw [MovArtifact.isApproved, (hr.2.1 row hrow).2] at happroved
    cases happroved
  · rw [(hr.2.1 row hrow).2] at hgenerated
    cases hgenerated

/-- A change that spares the reports that were approved leaves them, and their snapshots. -/
theorem MovChange.spares {db' : MovDb} (h : MovChange sha256 r.db l.2 db') (hsound : Sound sha256 r)
    (hhashed : Hashed sha256 r) (hspares : Spares ⟨r, l, r'⟩) :
    (∀ id ∈ r.approved, id ∈ r.db.rows.map (·.id) → id ∈ db'.rows.map (·.id)) ∧
      ∀ row' ∈ db'.rows, row'.id ∈ r.approved → ∃ row ∈ r.db.rows, row.id = row'.id ∧ row.snapshot = row'.snapshot := by
  obtain ⟨now, op⟩ := l
  cases h with
  | creates hid _ =>
    refine ⟨fun id _ hstored => ?_, fun row' hrow' happroved => ?_⟩
    · rw [List.map_append]
      exact List.mem_append_left _ hstored
    · rcases List.mem_append.mp hrow' with hrow' | hrow'
      · exact ⟨row', hrow', rfl, rfl⟩
      · -- a new report has a new identifier
        rw [List.mem_singleton.mp hrow', hid] at happroved
        exact absurd (hsound.past _ happroved) (lt_irrefl _)
  | saves hrow hsaved =>
    refine ⟨fun id _ hstored => ?_, fun row' hrow' happroved => ?_⟩
    · rw [ids_save]
      exact hstored
    · rcases mem_save hrow' with rfl | ⟨hrow', -⟩
      · have hid := updated_id hsaved
        rw [hid] at happroved
        exact ⟨_, hrow, hid.symm,
          (snapshot_updated hsaved (hhashed _ hrow happroved) (hspares happroved _ hrow rfl)).symm⟩
      · exact ⟨row', hrow', rfl, rfl⟩
  | @removes row hrow hopen =>
    refine ⟨fun id happroved hstored => ?_, fun row' hrow' _ => ⟨row', (List.mem_filter.mp hrow').1, rfl, rfl⟩⟩
    obtain ⟨other, hother, rfl⟩ := List.mem_map.mp hstored
    refine List.mem_map_of_mem (List.mem_filter.mpr ⟨hother, decide_eq_true fun hsame => ?_⟩)
    rw [hsame] at happroved
    have hguarded := hspares happroved row hrow rfl
    rw [hopen] at hguarded
    cases hguarded

theorem HasHash.of_snapshot {row row' : MovArtifact} (h : HasHash sha256 row) (hsame : row.snapshot = row'.snapshot) :
    HasHash sha256 row' := by
  have hhash : row.content_sha256 = row'.content_sha256 := congrArg Snapshot.content_sha256 hsame
  have hcontent : row.content_markdown = row'.content_markdown := congrArg Snapshot.content_markdown hsame
  unfold HasHash at h ⊢
  rw [← hhash, ← hcontent]
  exact h

theorem Hashed.step (h : Hashed sha256 r) (hsound : Sound sha256 r) (hs : (register sha256).step r l r')
    (hspares : Spares ⟨r, l, r'⟩) : Hashed sha256 r' := by
  have hsound' := hsound.step hs
  rcases change_of_step hs with rfl | ⟨db', hchange, rfl⟩
  · exact h
  · intro row' hrow' hid
    rcases List.mem_append.mp hid with hid | hid
    · obtain ⟨row, hrow, hsame, hsnapshot⟩ := (hchange.spares hsound h hspares).2 row' hrow' hid
      exact (h row hrow (hsame ▸ hid)).of_snapshot hsnapshot
    · obtain ⟨other, hother, hsame⟩ := List.mem_map.mp hid
      obtain ⟨hmem, happroved⟩ := List.mem_filter.mp hother
      obtain rfl := List.inj_on_of_nodup_map hsound'.nodup hmem hrow' hsame
      unfold MovArtifact.isApproved at happroved
      exact hsound'.hashed other hrow' (Bool.and_eq_true_iff.mp happroved).1

/-- A report that was approved keeps its snapshot over a step that spares it. -/
theorem KeepsSnapshot.step {row : MovArtifact} (h : KeepsSnapshot row r.db) (happroved : row.id ∈ r.approved)
    (hsound : Sound sha256 r) (hhashed : Hashed sha256 r) (hs : (register sha256).step r l r')
    (hspares : Spares ⟨r, l, r'⟩) : KeepsSnapshot row r'.db ∧ row.id ∈ r'.approved := by
  rcases change_of_step hs with rfl | ⟨db', hchange, rfl⟩
  · exact ⟨h, happroved⟩
  · obtain ⟨hstored, hsnapshots⟩ := hchange.spares hsound hhashed hspares
    refine ⟨⟨hstored _ happroved h.stored, fun row' hrow' hid => ?_⟩, List.mem_append_left _ happroved⟩
    obtain ⟨old, hold, hsame, hsnapshot⟩ := hsnapshots row' hrow' (hid ▸ happroved)
    rw [← hsnapshot]
    exact h.same old hold (hsame.trans hid)

/-- **Approved report snapshots are immutable**: every generated report has the hash of its content, and in a run that
spares the reports that were approved, none of them changes its snapshot or is removed. -/
theorem approved_reports_are_immutable (h : Run (register sha256) history r) :
    (∀ row ∈ r.db.rows, row.isGeneratedReport = true → HasHash sha256 row) ∧
      ((∀ e ∈ history, Spares e) → ∀ first e rest row, history = first ++ e :: rest → row ∈ e.before.db.rows →
        row.isApproved = true → ∀ e' ∈ e :: rest, KeepsSnapshot row e'.after.db) := by
  refine ⟨(sound_of_run h).hashed, fun hP first e rest row heq hrow happroved => ?_⟩
  have hinv : ∀ e ∈ history, Sound sha256 e.before ∧ Hashed sha256 e.before := by
    intro e he
    obtain ⟨-, earlier, hrun, hpast⟩ := h.reached e he
    refine Run.always (I := fun r => Sound sha256 r ∧ Hashed sha256 r) (fun r hr => ?_)
      (fun r l r' hr hs hp => ⟨hr.1.step hs, hr.2.step hr.1 hs hp⟩) hrun fun e he => hP e (hpast.subset he)
    refine ⟨sound_of_run (.init hr), fun row _ hid => ?_⟩
    rw [hr.2.2] at hid
    cases hid
  have hsound := (hinv e (heq ▸ List.mem_append_right _ List.mem_cons_self)).1
  have hkeeps : KeepsSnapshot row e.before.db := by
    refine ⟨List.mem_map_of_mem hrow, fun row' hrow' hid => ?_⟩
    rw [List.inj_on_of_nodup_map hsound.nodup hrow' hrow hid]
  have honward := h.onward (I := fun r => KeepsSnapshot row r.db ∧ row.id ∈ r.approved) (fun e' he' hI =>
    hI.1.step hI.2 (hinv e' he').1 (hinv e' he').2 (h.reached e' he').1 (hP e' he')) heq
    ⟨hkeeps, hsound.known row hrow happroved⟩
  exact fun e' he' => (honward e' he').1

end

/-! ## A superseded report -/

def quarterlyReport : CreateMovArtifactDto where
  artifact_type := "generated_report"
  title := "Q1"
  period_year := 2026
  status := some "approved"
  content_markdown := "old"

theorem run_register (sha256 : String → String) (labels : List (Int × MovOperation)) :
    Run (register sha256) (trace (Register.apply sha256) ⟨{}, []⟩ labels)
      (labels.foldl (Register.apply sha256) ⟨{}, []⟩) := by
  have hinit : (register sha256).init ⟨{}, []⟩ := ⟨List.nodup_nil, fun _ hrow => (List.not_mem_nil hrow).elim, rfl⟩
  have hrun := Run.trace (Register.apply sha256) (fun _ _ => rfl) labels (.init hinit)
  rwa [List.nil_append] at hrun

/-- A report is approved and superseded, and its content is written again. -/
def rewritten : List MovTransition :=
  trace (Register.apply id) ⟨{}, []⟩ [(0, .create quarterlyReport none), (1, .update 0 { status := some "superseded" }),
    (2, .update 0 { content_markdown := some "new" })]

theorem a_superseded_report_is_rewritten : ∃ history r, Run (register id) history r ∧
    ∃ first e rest row, history = first ++ e :: rest ∧ row ∈ e.before.db.rows ∧ row.isApproved = true ∧
      ¬ ∀ e' ∈ e :: rest, KeepsSnapshot row e'.after.db := by
  refine ⟨rewritten, _, run_register id _, rewritten.take 1, rewritten.get ⟨1, by decide +kernel⟩, rewritten.drop 2,
    newArtifact id 0 quarterlyReport none 0, ?_, ?_, ?_, ?_⟩
  · rw [List.get_eq_getElem, ← List.drop_eq_getElem_cons, List.take_append_drop]
  · decide +kernel
  · decide +kernel
  · intro h
    have hkeeps := h (rewritten.get ⟨2, by decide +kernel⟩) (List.mem_cons_of_mem _ (List.mem_singleton_self _))
    have hsame := hkeeps.same { newArtifact id 0 quarterlyReport none 0 with
      status := "superseded", content_markdown := "new", content_sha256 := some "new", finalized_at := none }
      (by decide +kernel) rfl
    exact absurd hsame (by decide +kernel)

/-- The superseded report is left alone. -/
theorem approved_reports_are_immutable_superseded : ∃ history r, Run (register id) history r ∧
    (r.db.rows.map (·.status) = ["superseded"]) ∧
    (∀ row ∈ r.db.rows, row.isGeneratedReport = true → HasHash id row) ∧
      ∀ first e rest row, history = first ++ e :: rest → row ∈ e.before.db.rows → row.isApproved = true →
        ∀ e' ∈ e :: rest, KeepsSnapshot row e'.after.db := by
  let labels : List (Int × MovOperation) :=
    [(0, .create quarterlyReport none), (1, .update 0 { status := some "superseded" })]
  have himmutable := approved_reports_are_immutable (run_register id labels)
  refine ⟨_, _, run_register id labels, by decide +kernel, himmutable.1, himmutable.2 ?_⟩
  decide +kernel

end ComplianceHub.Mov
