import ComplianceHub.Documents.Reviews
import ComplianceHub.Lib.Calls
import Mathlib.Data.List.Nodup

/-!
# New versions at the same time

* `VersionStore` : the row of a document with its file, and the rows of its versions;
* `VersionCall`, `versionCalls` : calls of `createVersion`, interleaved between the read of the document, the read of the
  latest version, the insert of the version and the save of the document;
* `Contiguous`, `IsCurrent` : versions are numbered from one, and the document has the number and the file of the last;
* `Undisturbed` : no version has been made since a call has read the latest, and none after it has become current;
* `two_calls_take_one_number` : without it, two versions have one number;
* `versions_are_numbered_and_current` : with it, the versions are numbered, and the last is current when no call is under
  way.
-/

namespace ComplianceHub.Documents

open ComplianceHub.Lib

/-! ## The rows -/

structure StoredDocument extends Document where
  file_blob : List UInt8
deriving DecidableEq, Repr

structure StoredVersion extends DocumentVersion where
  file_blob : List UInt8
  mime_type : String
  file_size : Nat
  preview_blob : Option (List UInt8) := none
deriving DecidableEq, Repr

/-- A document and its versions. -/
structure VersionStore where
  document : StoredDocument
  versions : List StoredVersion
  /-- Every identifier given so far is below it. -/
  nextId : Nat
deriving DecidableEq, Repr

/-- The version that comes first by `version_number DESC`. -/
def latestOf (versions : List StoredVersion) : Option StoredVersion := versions.argmax fun version => version.version_number

def nextNumber (versions : List StoredVersion) : Nat :=
  ((latestOf versions).map fun version => version.version_number + 1).getD 1

/-! ## The calls -/

inductive VersionCall where
  | createVersion (dto : CreateVersionDto)
  | loaded (dto : CreateVersionDto) (document : StoredDocument)
  /-- The number of the version has been chosen. -/
  | numbered (dto : CreateVersionDto) (document : StoredDocument) (nextVersionNumber : Nat)
  /-- The version is stored, and the document is to be saved. -/
  | inserted (dto : CreateVersionDto) (document : StoredDocument) (version : StoredVersion)
  | ended (result : Except HttpException StoredVersion)

/-- The document has been read, and the file is checked. -/
def loadDocument (store : VersionStore) (dto : CreateVersionDto) : Except HttpException StoredDocument := do
  check (store.document.is_deleted = false) (.notFound ("Document with ID " ++ toString dto.document_id ++ " not found"))
  assertValidFile dto.file
  pure store.document

/-- The number after the latest, whose file must be another. -/
def chooseNumber (s : Services) (store : VersionStore) (dto : CreateVersionDto) : Except HttpException Nat := do
  check (((latestOf store.versions).any fun version => version.checksum = s.calculateChecksum dto.file.buffer) = false)
    (.badRequest "File content is identical to the latest version")
  pure (nextNumber store.versions)

def storedVersion (s : Services) (dto : CreateVersionDto) (version_number id : Nat) : StoredVersion :=
  let isPdf := hasExtension ".pdf" (safeName dto.file.originalname)
  { newVersion s dto version_number id with
    file_blob := dto.file.buffer
    mime_type := if isPdf then "application/pdf"
      else "application/vnd.openxmlformats-officedocument.wordprocessingml.document"
    file_size := dto.file.buffer.length
    preview_blob := if isPdf then some dto.file.buffer else none }

/-- The entity that is saved after its version. -/
def withVersion (s : Services) (dto : CreateVersionDto) (version_number : Nat) (document : StoredDocument) : StoredDocument :=
  { document with
    current_version := version_number
    status := .ready
    extracted_text := extractInitialText s dto.file
    file_blob := dto.file.buffer }

def versionStep (s : Services) (store : VersionStore) (call : VersionCall) (_ : Unit) : Option (VersionStore × VersionCall) :=
  match call with
  | .createVersion dto =>
    match loadDocument store dto with
    | .ok document => some (store, .loaded dto document)
    | .error e => some (store, .ended (.error e))
  | .loaded dto document =>
    match chooseNumber s store dto with
    | .ok nextVersionNumber => some (store, .numbered dto document nextVersionNumber)
    | .error e => some (store, .ended (.error e))
  | .numbered dto document nextVersionNumber =>
    let version := storedVersion s dto nextVersionNumber store.nextId
    some ({ store with versions := store.versions ++ [version], nextId := store.nextId + 1 },
      .inserted dto document version)
  | .inserted dto document version =>
    some ({ store with document := withVersion s dto version.version_number document }, .ended (.ok version))
  | .ended _ => none

/-! ## The numbers -/

/-- The versions are numbered from one, without gaps. -/
def Contiguous (versions : List StoredVersion) : Prop :=
  versions.map (·.version_number) = List.range' 1 versions.length

/-- The document has the number and the file of a version. -/
def Shows (document : StoredDocument) (version : StoredVersion) : Prop :=
  document.current_version = version.version_number ∧ document.file_blob = version.file_blob

def IsLast (versions : List StoredVersion) (version : StoredVersion) : Prop :=
  version ∈ versions ∧ ∀ other ∈ versions, other.version_number ≤ version.version_number

/-- The last version is the current one. -/
def IsCurrent (store : VersionStore) : Prop := ∀ version, IsLast store.versions version → Shows store.document version

def VersionCall.isStart : VersionCall → Prop
  | .createVersion _ => True
  | _ => False

/-- A call that has not begun, or is over. -/
def VersionCall.isIdle : VersionCall → Prop
  | .createVersion _ | .ended _ => True
  | _ => False

/-- Any number of calls on a document whose last version is current. -/
def versionCalls (s : Services) : Calls VersionStore VersionCall Unit where
  init store := Contiguous store.versions ∧ IsCurrent store
  start := VersionCall.isStart
  step := versionStep s

section
variable {ι : Type}

abbrev VersionTransition (ι : Type) := Transition (Pool ι VersionStore VersionCall) (ι × Unit)

/-- A version that is stored is the next one, and a document that is saved has no later one. -/
def Undisturbed (e : VersionTransition ι) : Prop :=
  match e.before.call e.label.1 with
  | .numbered _ _ nextVersionNumber => nextVersionNumber = nextNumber e.before.shared.versions
  | .inserted _ _ version => e.before.shared.document.current_version ≤ version.version_number
  | _ => True

instance (e : VersionTransition ι) : Decidable (Undisturbed e) := by
  unfold Undisturbed
  split <;> infer_instance

end

/-- A call about to save its document has stored its version. -/
def VersionCall.Holds (store : VersionStore) : VersionCall → Prop
  | .inserted dto _ version => version ∈ store.versions ∧ version.file_blob = dto.file.buffer
  | _ => True

/-- The next step of a call makes a version current. -/
def VersionCall.saves (version : StoredVersion) : VersionCall → Prop
  | .inserted _ _ stored => stored = version
  | _ => False

section
variable {versions : List StoredVersion} {version : StoredVersion}

theorem Contiguous.mem_number (h : Contiguous versions) {n : Nat} :
    n ∈ versions.map (·.version_number) ↔ 1 ≤ n ∧ n ≤ versions.length := by
  rw [h, List.mem_range'_1]
  omega

theorem Contiguous.number_le (h : Contiguous versions) (hversion : version ∈ versions) :
    version.version_number ≤ versions.length :=
  (h.mem_number.mp (List.mem_map_of_mem hversion)).2

theorem Contiguous.nextNumber (h : Contiguous versions) : nextNumber versions = versions.length + 1 := by
  unfold Documents.nextNumber
  cases hlatest : latestOf versions with
  | none =>
    rw [List.argmax_eq_none.mp hlatest]
    rfl
  | some latest =>
    have hmem : latest ∈ versions := List.argmax_mem hlatest
    have hlength : 1 ≤ versions.length := List.length_pos_of_mem hmem
    obtain ⟨last, hlast, hnumber⟩ := List.mem_map.mp (h.mem_number.mpr ⟨hlength, le_refl _⟩)
    have hle : last.version_number ≤ latest.version_number :=
      List.le_of_mem_argmax (f := fun version : StoredVersion => version.version_number) hlast hlatest
    have hbound := h.number_le hmem
    show latest.version_number + 1 = versions.length + 1
    omega

theorem Contiguous.concat (h : Contiguous versions) (hnumber : version.version_number = versions.length + 1) :
    Contiguous (versions ++ [version]) := by
  unfold Contiguous
  rw [List.map_append, h, List.length_append, List.length_singleton, List.range'_concat, List.map_singleton, hnumber]
  congr 2
  omega

/-- The last of numbered versions is the one with their number. -/
theorem Contiguous.isLast_iff (h : Contiguous versions) (hversion : version ∈ versions) :
    IsLast versions version ↔ version.version_number = versions.length := by
  constructor
  · intro hlast
    obtain ⟨last, hmem, hnumber⟩ := List.mem_map.mp (h.mem_number.mpr ⟨List.length_pos_of_mem hversion, le_refl _⟩)
    have hle := hlast.2 last hmem
    have hbound := h.number_le hversion
    omega
  · intro hnumber
    exact ⟨hversion, fun other hother => hnumber ▸ h.number_le hother⟩

theorem Contiguous.eq_of_number (h : Contiguous versions) (hversion : version ∈ versions) {other : StoredVersion}
    (hother : other ∈ versions) (hnumber : other.version_number = version.version_number) : other = version := by
  refine List.inj_on_of_nodup_map (f := (·.version_number)) ?_ hother hversion hnumber
  rw [h]
  exact List.nodup_range'

end

/-! ## Steps -/

/-- What a step makes of the store and of its call. -/
inductive VersionStep (s : Services) (store : VersionStore) : VersionCall → VersionStore → VersionCall → Prop
  | reads {call call' : VersionCall} (hbefore : ∀ version, ¬ call.saves version)
      (hholds : call'.Holds store) : VersionStep s store call store call'
  | inserts (dto : CreateVersionDto) (document : StoredDocument) (nextVersionNumber : Nat) :
      VersionStep s store (.numbered dto document nextVersionNumber)
        { store with
          versions := store.versions ++ [storedVersion s dto nextVersionNumber store.nextId], nextId := store.nextId + 1 }
        (.inserted dto document (storedVersion s dto nextVersionNumber store.nextId))
  | saves (dto : CreateVersionDto) (document : StoredDocument) (version : StoredVersion) :
      VersionStep s store (.inserted dto document version)
        { store with document := withVersion s dto version.version_number document } (.ended (.ok version))

theorem step_of_versionStep {s : Services} {store store' : VersionStore} {call call' : VersionCall}
    (h : versionStep s store call () = some (store', call')) : VersionStep s store call store' call' := by
  cases call with
  | createVersion dto =>
    simp only [versionStep] at h
    split at h
    · cases h
      exact .reads (fun _ h => h) trivial
    · cases h
      exact .reads (fun _ h => h) trivial
  | loaded dto document =>
    simp only [versionStep] at h
    split at h
    · cases h
      exact .reads (fun _ h => h) trivial
    · cases h
      exact .reads (fun _ h => h) trivial
  | numbered dto document nextVersionNumber =>
    cases h
    exact .inserts dto document nextVersionNumber
  | inserted dto document version =>
    cases h
    exact .saves dto document version
  | ended result => cases h

/-! ## Runs -/

section
variable {ι : Type} [DecidableEq ι] {s : Services} {history : List (VersionTransition ι)}
  {p p' : Pool ι VersionStore VersionCall} {l : ι × Unit}

/-- The versions are numbered, and the last is current or about to be. -/
structure Advances (p : Pool ι VersionStore VersionCall) : Prop where
  contiguous : Contiguous p.shared.versions
  holds : ∀ i, (p.call i).Holds p.shared
  last : ∀ version, IsLast p.shared.versions version → Shows p.shared.document version ∨ ∃ i, (p.call i).saves version

theorem Advances.init (h : ((versionCalls s).interleaved ι).init p) : Advances p := by
  refine ⟨h.1.1, fun i => ?_, fun version hversion => .inl (h.1.2 version hversion)⟩
  have hstart := h.2 i
  generalize p.call i = call at hstart ⊢
  cases call with
  | createVersion dto => exact trivial
  | _ => exact hstart.elim

theorem Advances.step (h : Advances p) (hs : ((versionCalls s).interleaved ι).step p l p')
    (hp : Undisturbed ⟨p, l, p'⟩) : Advances p' := by
  obtain ⟨i, _⟩ := l
  obtain ⟨⟨store', call'⟩, hr, rfl⟩ := hs
  have hstep := step_of_versionStep hr
  have hholds := h.holds i
  simp only [Undisturbed] at hp
  dsimp only at hstep hp
  generalize hcall : p.call i = call at hstep hholds hp
  cases hstep with
  | reads hbefore hafter =>
    refine ⟨h.contiguous, p.forall_after hafter fun j _ => h.holds j, fun version hversion => ?_⟩
    rcases h.last version hversion with hshows | ⟨j, hj⟩
    · exact .inl hshows
    · refine .inr ⟨j, ?_⟩
      rw [Pool.after_call_of_ne]
      · exact hj
      · rintro rfl
        rw [hcall] at hj
        exact hbefore version hj
  | inserts dto document nextVersionNumber =>
    have hnumber : (storedVersion s dto nextVersionNumber p.shared.nextId).version_number = p.shared.versions.length + 1 :=
      hp.trans h.contiguous.nextNumber
    have hcontiguous := h.contiguous.concat hnumber
    refine ⟨hcontiguous, p.forall_after ⟨List.mem_concat_self, rfl⟩ fun j _ => ?_, fun version hversion => .inr ⟨i, ?_⟩⟩
    · have hother := h.holds j
      generalize p.call j = other at hother ⊢
      cases other with
      | inserted dto document version => exact ⟨List.mem_append_left _ hother.1, hother.2⟩
      | _ => exact trivial
    · rw [Pool.after_call]
      refine hcontiguous.eq_of_number hversion.1 List.mem_concat_self ?_
      rw [(hcontiguous.isLast_iff hversion.1).mp hversion, List.length_append, List.length_singleton]
      exact hnumber
  | saves dto document version =>
    refine ⟨h.contiguous, p.forall_after trivial fun j _ => ?_, fun last hlast => ?_⟩
    · have hother := h.holds j
      generalize p.call j = other at hother ⊢
      cases other with
      | inserted dto document version => exact hother
      | _ => exact trivial
    · by_cases hsame : last.version_number = version.version_number
      · cases h.contiguous.eq_of_number hholds.1 hlast.1 hsame
        exact .inl ⟨rfl, hholds.2.symm⟩
      · have hle := hlast.2 version hholds.1
        rcases h.last last hlast with hshows | ⟨j, hj⟩
        · -- the document has no later version than the one that is saved
          have hshown := hshows.1
          omega
        · refine .inr ⟨j, ?_⟩
          rw [Pool.after_call_of_ne]
          · exact hj
          · rintro rfl
            rw [hcall] at hj
            cases hj
            exact hsame rfl

/-- **Versions are numbered from one, and the last is current** when no call is under way, in every run whose calls store
the next version and save no earlier one over a later. -/
theorem versions_are_numbered_and_current (h : Run ((versionCalls s).interleaved ι) history p)
    (hP : ∀ e ∈ history, Undisturbed e) :
    Contiguous p.shared.versions ∧ ((∀ i, (p.call i).isIdle) → IsCurrent p.shared) := by
  have hadvances : Advances p :=
    Run.always (fun _ => Advances.init) (fun _ _ _ ha hs hp => ha.step hs hp) h hP
  refine ⟨hadvances.contiguous, fun hidle version hversion => ?_⟩
  rcases hadvances.last version hversion with hshows | ⟨i, hi⟩
  · exact hshows
  · have hidle := hidle i
    generalize p.call i = call at hi hidle
    cases call with
    | inserted dto document stored => exact hidle.elim
    | _ => exact hi.elim

end

/-! ## Two calls -/

def newFile (text : String) : CreateVersionDto := { document_id := 1, uploaded_by := 1, file := ⟨"a.pdf", asciiBytes text⟩ }

/-- A document with its first version, and two calls. -/
def twoNewVersions : Pool (Fin 2) VersionStore VersionCall where
  shared :=
    { document := { id := 1, title := "T", document_type := "T", unit_id := 5, uploaded_by := 1
                    file_blob := asciiBytes "%PDF-1.7" }
      versions := [storedVersion march2026 (newFile "%PDF-1.7") 1 2]
      nextId := 3 }
  call
    | 0 => .createVersion (newFile "%PDF-1.7 one")
    | 1 => .createVersion (newFile "%PDF-1.7 another")

theorem twoNewVersions_init : ((versionCalls march2026).interleaved (Fin 2)).init twoNewVersions := by
  refine ⟨⟨rfl, fun version hversion => ?_⟩, fun i => ?_⟩
  · rw [List.mem_singleton.mp hversion.1]
    exact ⟨rfl, rfl⟩
  · match i with
    | 0 | 1 => trivial

/-- Both calls read the latest version before either stores its own. -/
def doubleSteps : List (Fin 2 × Unit) := (List.replicate 4 (List.finRange 2)).flatten.map fun i => (i, ())

theorem double_executes : ((versionCalls march2026).execute twoNewVersions doubleSteps).isSome = true := by
  decide +kernel

def doubleLog : (versionCalls march2026).Log (Fin 2) :=
  ((versionCalls march2026).execute twoNewVersions doubleSteps).get double_executes

theorem two_calls_take_one_number : ∃ history p, Run ((versionCalls march2026).interleaved (Fin 2)) history p ∧
    ¬ (p.shared.versions.map (·.version_number)).Nodup := by
  refine ⟨doubleLog.1, doubleLog.2, Calls.run_of_execute twoNewVersions_init (Option.some_get _).symm, ?_⟩
  decide +kernel

/-- One call after the other. -/
theorem versions_are_numbered_and_current_apart : ∃ history p,
    Run ((versionCalls march2026).interleaved (Fin 2)) history p ∧ p.shared.versions.length = 3 ∧
      Contiguous p.shared.versions ∧ ((∀ i, (p.call i).isIdle) → IsCurrent p.shared) := by
  have hlog : ((versionCalls march2026).execute twoNewVersions ([0, 0, 0, 0, 1, 1, 1, 1].map fun i => (i, ()))).any
      (fun log => log.2.shared.versions.length = 3 && log.1.all fun e => decide (Undisturbed e)) = true := by
    decide +kernel
  obtain ⟨log, hexecute, hlog⟩ := (Option.any_eq_true _ _).mp hlog
  rw [Bool.and_eq_true, decide_eq_true_eq, List.all_eq_true] at hlog
  have hrun := Calls.run_of_execute (C := versionCalls march2026) twoNewVersions_init hexecute
  exact ⟨_, _, hrun, hlog.1, versions_are_numbered_and_current hrun fun e he => of_decide_eq_true (hlog.2 e he)⟩

end ComplianceHub.Documents
