import ComplianceHub.Common
import ComplianceHub.Lib.PosixPath
import ComplianceHub.Lib.Run
import ComplianceHub.Lib.Triple

/-!
# The files of the storage

* `resolvePathWithinRoot` : the path of a file, unless it is outside a root (`resolvePathWithinRoot_eq_ok`);
* `StorageService` : `saveFile`, `readFile`, `deleteFile`; `storing` : their calls on one disk, in any order;
* `directories_of_saved` : where a file is saved, and that files with other names or times are saved elsewhere;
* `writes_below_root` : no call touches a file outside the storage;
* `saved_reads_back` : a file that has been saved is read as it was saved.
-/

namespace ComplianceHub.Documents

open ComplianceHub.Lib

/-! ## Paths -/

/-- `path.resolve`. -/
def pathResolve (paths : List String) : String := String.ofList (resolve '/' '.' (paths.map String.toList))

/-- Back slashes are taken for slashes. -/
def normalizedRelative (relativePath : String) : String :=
  String.ofList (relativePath.toList.map fun c => if c = '\\' then '/' else c)

/-- The error is the one of the language. -/
def resolvePathWithinRoot (cwd rootPath relativePath : String) : Except String String :=
  let rootAbs := pathResolve [cwd, rootPath]
  let resolved := pathResolve [cwd, rootAbs, normalizedRelative relativePath]
  let rootWithSep := rootAbs.toList ++ ['/']
  if resolved ≠ rootAbs ∧ ¬ rootWithSep <+: resolved.toList then .error "Path escapes storage root" else .ok resolved

/-! ## The service -/

inductive SubDir where
  | documents
  | previews
  | temp
deriving DecidableEq, Repr

def SubDir.name : SubDir → String
  | documents => "documents"
  | previews => "previews"
  | temp => "temp"

structure StorageService where
  cwd : String
  storageRoot : String
deriving DecidableEq, Repr

def StorageService.storageRootAbs (service : StorageService) : String := pathResolve [service.cwd, service.storageRoot]

def allowedCharacters : List Char := "abcdefghijklmnopqrstuvwxyzABCDEFGHIJKLMNOPQRSTUVWXYZ0123456789._-".toList

/-- A character outside the allowed ones is replaced, one outside the basic plane by two. -/
def sanitizeFileName (fileName : String) : String :=
  String.ofList (fileName.toList.flatMap fun c =>
    if c ∈ allowedCharacters then [c]
    else if c.toNat < 0x10000 then ['_'] else ['_', '_'])

def uniqueName (timestamp : Nat) (fileName : String) : String := toString timestamp ++ "-" ++ sanitizeFileName fileName

/-- The files of the disk, by their absolute paths. -/
abbrev Files (β : Type) := String → Option β

/-- What the disk does in a call. -/
structure Disk (β : Type) where
  now : Nat
  mkdir : Bool
  /-- The file is written, read or deleted. -/
  access : Bool
  /-- What a write that fails makes of the file. -/
  torn : Option β → Option β

abbrev StorageM (β : Type) := EStateM HttpException (Files β)

/-- What is raised where the disk fails. -/
def diskError : HttpException := .internalServerError "Internal server error"

section
variable {β : Type} (service : StorageService) (disk : Disk β)

def StorageService.resolveWithinStorage (relativePath : String) : Except HttpException String :=
  match resolvePathWithinRoot service.cwd service.storageRootAbs relativePath with
  | .ok path => .ok path
  | .error _ => .error (.notFound "Invalid storage path")

def writeFile (fullPath : String) (buffer : β) : StorageM β Unit := do
  modify fun files => Function.update files fullPath (if disk.access then some buffer else disk.torn (files fullPath))
  reads fun _ => check (disk.access = true) diskError

def StorageService.saveFile (buffer : β) (fileName : String) (subDir : SubDir) : StorageM β String := do
  let _ ← reads fun _ => service.resolveWithinStorage subDir.name
  reads fun _ => check (disk.mkdir = true) diskError
  let relativePath := subDir.name ++ "/" ++ uniqueName disk.now fileName
  let fullPath ← reads fun _ => service.resolveWithinStorage relativePath
  writeFile disk fullPath buffer
  pure relativePath

def readBuffer (filePath fullPath : String) (files : Files β) : Except HttpException β :=
  if disk.access = false then .error diskError
  else match files fullPath with
    | none => .error (.notFound ("Stored file not found: " ++ filePath))
    | some buffer => .ok buffer

def StorageService.readFile (filePath : String) : StorageM β β := do
  let fullPath ← reads fun _ => service.resolveWithinStorage filePath
  reads (readBuffer disk filePath fullPath)

/-- A file that cannot be deleted stays, and nothing is raised. -/
def StorageService.deleteFile (filePath : String) : StorageM β Unit := do
  let fullPath ← reads fun _ => service.resolveWithinStorage filePath
  modify fun files => if disk.access then Function.update files fullPath none else files

end

/-! ## Runs -/

inductive StorageOp (β : Type) where
  | saveFile (buffer : β) (fileName : String) (subDir : SubDir)
  | readFile (filePath : String)
  | deleteFile (filePath : String)

inductive StorageAnswer (β : Type) where
  | path (relativePath : String)
  | buffer (content : β)
  | done
deriving DecidableEq

def StorageOp.run {β : Type} (service : StorageService) (disk : Disk β) : StorageOp β → StorageM β (StorageAnswer β)
  | saveFile buffer fileName subDir => do
    let relativePath ← service.saveFile disk buffer fileName subDir
    pure (.path relativePath)
  | readFile filePath => do
    let content ← service.readFile disk filePath
    pure (.buffer content)
  | deleteFile filePath => do
    service.deleteFile disk filePath
    pure .done

structure StorageCall (β : Type) where
  disk : Disk β
  op : StorageOp β
  answer : Except HttpException (StorageAnswer β)

def answerWith {σ α : Type} : EStateM.Result HttpException σ α → Except HttpException α × σ
  | .ok a s => (.ok a, s)
  | .error e s => (.error e, s)

/-- Calls one after the other, on a disk with any files. -/
def storing {β : Type} (service : StorageService) : System (Files β) (StorageCall β) where
  init _ := True
  step files call files' := answerWith (call.op.run service call.disk files) = (call.answer, files')

/-! ## Where a path leads -/

/-- The text of a directory. -/
def pathOf (dir : List (List Char)) : String := String.ofList (render '/' dir)

/-- The directory of a root. -/
def rootDirectory (cwd rootPath : String) : List (List Char) :=
  walk '.' [] ((joinPaths '/' [cwd.toList, rootPath.toList]).splitOn '/')

/-- Where a relative path leads, followed one segment after the other. -/
def leadsTo (root : List (List Char)) (relativePath : String) : List (List Char) :=
  walk '.' (start '/' root (normalizedRelative relativePath).toList) ((normalizedRelative relativePath).toList.splitOn '/')

theorem plain_rootDirectory (cwd rootPath : String) : Plain '/' '.' (rootDirectory cwd rootPath) :=
  plain_walk_splitOn (fun _ hs => absurd hs List.not_mem_nil) _

theorem plain_leadsTo {root : List (List Char)} (h : Plain '/' '.' root) (relativePath : String) :
    Plain '/' '.' (leadsTo root relativePath) := by
  refine plain_walk_splitOn ?_ _
  unfold start
  split_ifs
  · exact fun _ hs => absurd hs List.not_mem_nil
  · exact h

theorem pathOf_inj {dir dir' : List (List Char)} (h : Plain '/' '.' dir) (h' : Plain '/' '.' dir') :
    pathOf dir = pathOf dir' ↔ dir = dir' := by
  unfold pathOf
  rw [String.ofList_inj]
  exact ⟨render_injective h h', fun heq => heq ▸ rfl⟩

theorem pathResolve_root (cwd rootPath : String) : pathResolve [cwd, rootPath] = pathOf (rootDirectory cwd rootPath) := rfl

theorem pathResolve_pathOf {dir : List (List Char)} (h : Plain '/' '.' dir) (cwd : String) :
    pathResolve [cwd, pathOf dir] = pathOf dir := by
  unfold pathResolve pathOf
  rw [List.map_cons, List.map_cons, List.map_nil, String.toList_ofList, resolve_pair h]

theorem pathResolve_leadsTo {root : List (List Char)} (h : Plain '/' '.' root) (cwd relativePath : String) :
    pathResolve [cwd, pathOf root, normalizedRelative relativePath] = pathOf (leadsTo root relativePath) := by
  unfold pathResolve pathOf
  rw [List.map_cons, List.map_cons, List.map_cons, List.map_nil, String.toList_ofList, resolve_render h]
  rfl

/-- **What a root contains**: a path is accepted exactly if it leads to the root or below it, and is then the path without
dots, double separators and back slashes. Nothing is accepted below the root of the disk. -/
theorem resolvePathWithinRoot_eq_ok (cwd rootPath relativePath path : String) :
    resolvePathWithinRoot cwd rootPath relativePath = .ok path ↔
      path = pathOf (leadsTo (rootDirectory cwd rootPath) relativePath) ∧
        (leadsTo (rootDirectory cwd rootPath) relativePath = rootDirectory cwd rootPath ∨
          rootDirectory cwd rootPath ≠ [] ∧
            rootDirectory cwd rootPath <+: leadsTo (rootDirectory cwd rootPath) relativePath) := by
  have hroot := plain_rootDirectory cwd rootPath
  have hleads := plain_leadsTo hroot relativePath
  unfold resolvePathWithinRoot
  dsimp only
  rw [pathResolve_root, pathResolve_leadsTo hroot]
  generalize rootDirectory cwd rootPath = root at hroot hleads ⊢
  generalize leadsTo root relativePath = dir at hleads ⊢
  have haccepted : ¬ (pathOf dir ≠ pathOf root ∧ ¬ (pathOf root).toList ++ ['/'] <+: (pathOf dir).toList) ↔
      dir = root ∨ root ≠ [] ∧ root <+: dir := by
    rw [not_and_or, not_not, not_not, pathOf_inj hleads hroot]
    unfold pathOf
    rw [String.toList_ofList, String.toList_ofList, below_iff hroot hleads]
    refine or_congr_right' fun hne => and_congr_right fun _ => ?_
    constructor
    · rintro ⟨rest, -, rfl⟩
      exact List.prefix_append root rest
    · rintro ⟨rest, rfl⟩
      exact ⟨rest, fun hnil => hne (by rw [hnil, List.append_nil]), rfl⟩
  split_ifs with houtside
  · simp only [false_iff, not_and]
    exact fun _ hinside => haccepted.mpr hinside houtside
  · rw [Except.ok.injEq, eq_comm]
    exact ⟨fun hpath => ⟨hpath, haccepted.mp houtside⟩, fun h => h.1⟩

/-! ## Where files are saved -/

theorem rootDirectory_pathOf {dir : List (List Char)} (h : Plain '/' '.' dir) (cwd : String) :
    rootDirectory cwd (pathOf dir) = dir :=
  (pathOf_inj (plain_rootDirectory cwd (pathOf dir)) h).mp ((pathResolve_root cwd (pathOf dir)).symm.trans
    (pathResolve_pathOf h cwd))

def StorageService.directory (service : StorageService) : List (List Char) :=
  rootDirectory service.cwd service.storageRoot

theorem StorageService.plain_directory (service : StorageService) : Plain '/' '.' service.directory :=
  plain_rootDirectory service.cwd service.storageRoot

theorem resolveWithinStorage_eq_ok {service : StorageService} {relativePath path : String} :
    service.resolveWithinStorage relativePath = .ok path ↔ path = pathOf (leadsTo service.directory relativePath) ∧
      (leadsTo service.directory relativePath = service.directory ∨
        service.directory ≠ [] ∧ service.directory <+: leadsTo service.directory relativePath) := by
  have haccepted := resolvePathWithinRoot_eq_ok service.cwd service.storageRootAbs relativePath path
  have hroot : rootDirectory service.cwd service.storageRootAbs = service.directory :=
    rootDirectory_pathOf service.plain_directory service.cwd
  rw [hroot] at haccepted
  rw [← haccepted]
  unfold StorageService.resolveWithinStorage
  cases resolvePathWithinRoot service.cwd service.storageRootAbs relativePath with
  | ok resolved => simp
  | error e => simp

/-- The directory and the name of a file that is saved. -/
def savedAt (timestamp : Nat) (fileName : String) (subDir : SubDir) : List (List Char) :=
  [subDir.name.toList, (uniqueName timestamp fileName).toList]

theorem mem_sanitizeFileName {fileName : String} {c : Char} (h : c ∈ (sanitizeFileName fileName).toList) :
    c ∈ allowedCharacters := by
  unfold sanitizeFileName at h
  rw [String.toList_ofList, List.mem_flatMap] at h
  obtain ⟨d, -, hc⟩ := h
  have hreplaced : '_' ∈ allowedCharacters := by decide
  split_ifs at hc with hallowed hplane
  · rw [List.mem_singleton.mp hc]
    exact hallowed
  · rw [List.mem_singleton.mp hc]
    exact hreplaced
  · rw [show c = '_' by simpa using hc]
    exact hreplaced

theorem toList_uniqueName (timestamp : Nat) (fileName : String) : (uniqueName timestamp fileName).toList =
    Nat.toDigits 10 timestamp ++ '-' :: (sanitizeFileName fileName).toList := by
  unfold uniqueName
  rw [String.toList_append, String.toList_append, Nat.toString_eq_repr, Nat.toList_repr, List.append_assoc]
  rfl

theorem notMem_toDigits {timestamp : Nat} {c : Char} (h : c.isDigit = false) : c ∉ Nat.toDigits 10 timestamp := by
  intro hc
  rw [Nat.isDigit_of_mem_toDigits (by decide) (by decide) hc] at h
  cases h

theorem notMem_uniqueName {timestamp : Nat} {fileName : String} {c : Char} (hdigit : c.isDigit = false) (hdash : c ≠ '-')
    (hallowed : c ∉ allowedCharacters) : c ∉ (uniqueName timestamp fileName).toList := by
  rw [toList_uniqueName]
  intro hc
  rcases List.mem_append.mp hc with hc | hc
  · exact notMem_toDigits hdigit hc
  · rcases List.mem_cons.mp hc with hc | hc
    · exact hdash hc
    · exact hallowed (mem_sanitizeFileName hc)

/-- The times and the names of two files that are saved as one. -/
theorem uniqueName_inj {t t' : Nat} {fileName fileName' : String}
    (h : (uniqueName t fileName).toList = (uniqueName t' fileName').toList) :
    t = t' ∧ sanitizeFileName fileName = sanitizeFileName fileName' := by
  rw [toList_uniqueName, toList_uniqueName] at h
  have hdash : ∀ n, '-' ∉ Nat.toDigits 10 n := fun n => notMem_toDigits (by decide)
  have hfirst : Nat.toDigits 10 t = Nat.toDigits 10 t' := by
    have htaken := congrArg (List.takeWhile (· ≠ '-')) h
    rw [List.takeWhile_append_of_pos, List.takeWhile_append_of_pos] at htaken
    · simpa using htaken
    · exact fun c hc => decide_eq_true fun hsame => hdash t' (hsame ▸ hc)
    · exact fun c hc => decide_eq_true fun hsame => hdash t (hsame ▸ hc)
  rw [hfirst, List.append_cancel_left_eq, List.cons.injEq] at h
  refine ⟨?_, String.toList_inj.mp h.2⟩
  rw [← @Nat.ofDigitChars_ten_toDigits t, ← @Nat.ofDigitChars_ten_toDigits t', hfirst]

theorem savedAt_inj {t t' : Nat} {fileName fileName' : String} {subDir subDir' : SubDir}
    (h : savedAt t fileName subDir = savedAt t' fileName' subDir') :
    subDir = subDir' ∧ t = t' ∧ sanitizeFileName fileName = sanitizeFileName fileName' := by
  unfold savedAt at h
  rw [List.cons.injEq, List.cons.injEq] at h
  refine ⟨?_, uniqueName_inj h.2.1⟩
  have hname := h.1
  revert hname
  cases subDir <;> cases subDir' <;> decide

theorem plain_savedAt (t : Nat) (fileName : String) (subDir : SubDir) : Plain '/' '.' (savedAt t fileName subDir) := by
  have hdir : subDir.name.toList ≠ [] ∧ subDir.name.toList ≠ ['.'] ∧ subDir.name.toList ≠ ['.', '.'] ∧
      '/' ∉ subDir.name.toList := by
    cases subDir <;> decide
  have hdash : '-' ∈ (uniqueName t fileName).toList := by
    rw [toList_uniqueName]
    exact List.mem_append_right _ List.mem_cons_self
  intro s hs
  rcases List.mem_cons.mp hs with rfl | hs
  · exact hdir
  · rw [List.mem_singleton.mp hs]
    refine ⟨fun h => ?_, fun h => ?_, fun h => ?_, notMem_uniqueName (by decide) (by decide) (by decide)⟩
    · rw [h] at hdash
      cases hdash
    · rw [h] at hdash
      exact absurd hdash (by decide)
    · rw [h] at hdash
      exact absurd hdash (by decide)

/-- A file is saved in its directory, under its own name. -/
theorem leadsTo_saved (root : List (List Char)) (t : Nat) (fileName : String) (subDir : SubDir) :
    leadsTo root (subDir.name ++ "/" ++ uniqueName t fileName) = root ++ savedAt t fileName subDir := by
  have htext : (subDir.name ++ "/" ++ uniqueName t fileName).toList =
      subDir.name.toList ++ '/' :: (uniqueName t fileName).toList := by
    rw [String.toList_append, String.toList_append, List.append_assoc]
    rfl
  have hback : '\\' ∉ (subDir.name ++ "/" ++ uniqueName t fileName).toList := by
    rw [htext]
    have hname : '\\' ∉ subDir.name.toList := by cases subDir <;> decide
    have hunique : '\\' ∉ (uniqueName t fileName).toList := notMem_uniqueName (by decide) (by decide) (by decide)
    simp [hname, hunique]
  have hnormal : (normalizedRelative (subDir.name ++ "/" ++ uniqueName t fileName)).toList =
      subDir.name.toList ++ '/' :: (uniqueName t fileName).toList := by
    unfold normalizedRelative
    rw [String.toList_ofList, ← htext]
    have hsame : ∀ c ∈ (subDir.name ++ "/" ++ uniqueName t fileName).toList, (if c = '\\' then '/' else c) = c :=
      fun c hc => if_neg fun h : c = '\\' => hback (h ▸ hc)
    exact (List.map_congr_left hsame).trans (List.map_id _)
  have hplain := plain_savedAt t fileName subDir
  have hdir : '/' ∉ subDir.name.toList := (hplain _ List.mem_cons_self).2.2.2
  have hunique : '/' ∉ (uniqueName t fileName).toList := (hplain _ (List.mem_cons_of_mem _ List.mem_cons_self)).2.2.2
  have hrelative : (subDir.name.toList ++ '/' :: (uniqueName t fileName).toList).head? ≠ some '/' := by
    cases subDir <;> exact fun h => absurd (Option.some.inj h) (by decide)
  unfold leadsTo start
  rw [hnormal, if_neg hrelative, List.splitOn_append_cons_self_of_not_mem hdir, List.splitOn_eq_singleton hunique]
  exact walk_of_plain hplain root

/-! ## What a call changes -/

section
variable {β : Type} {service : StorageService} {files files' : Files β} {call : StorageCall β}

theorem leaves_of_storing (h : (storing service).step files call files') :
    files' = leaves (call.op.run service call.disk) files := by
  have hanswer : answerWith (call.op.run service call.disk files) = (call.answer, files') := h
  unfold leaves
  cases hrun : call.op.run service call.disk files with
  | ok answer left =>
    rw [hrun] at hanswer
    exact (congrArg Prod.snd hanswer).symm
  | error e left =>
    rw [hrun] at hanswer
    exact (congrArg Prod.snd hanswer).symm

theorem leaves_then {α γ : Type} (m : StorageM β α) (f : α → γ) :
    leaves (do let a ← m; pure (f a)) files = leaves m files := by
  show leaves (EStateM.bind m fun a => pure (f a)) files = _
  unfold leaves EStateM.bind
  cases m files with
  | ok a left => rfl
  | error e left => rfl

theorem leaves_writeFile (disk : Disk β) (fullPath : String) (buffer : β) (files : Files β) :
    leaves (writeFile disk fullPath buffer) files =
      Function.update files fullPath (if disk.access then some buffer else disk.torn (files fullPath)) :=
  leaves_only_reads (fun _ => check (disk.access = true) diskError) _

/-- The path of a saved file. -/
def StorageService.savedPath (service : StorageService) (t : Nat) (fileName : String) (subDir : SubDir) : String :=
  pathOf (service.directory ++ savedAt t fileName subDir)

theorem resolve_saved {t : Nat} {fileName path : String} {subDir : SubDir}
    (h : service.resolveWithinStorage (subDir.name ++ "/" ++ uniqueName t fileName) = .ok path) :
    path = service.savedPath t fileName subDir := by
  rw [resolveWithinStorage_eq_ok, leadsTo_saved] at h
  exact h.1

/-- A file that is saved replaces no other. -/
theorem leaves_saveFile (service : StorageService) (disk : Disk β) (buffer : β) (fileName : String) (subDir : SubDir)
    (files : Files β) :
    leaves (service.saveFile disk buffer fileName subDir) files = files ∨
      ∃ content, leaves (service.saveFile disk buffer fileName subDir) files =
        Function.update files (service.savedPath disk.now fileName subDir) content := by
  unfold StorageService.saveFile
  cases hdir : service.resolveWithinStorage subDir.name with
  | error e => exact .inl (leaves_given_error rfl files)
  | ok dirPath =>
    rw [leaves_given rfl files]
    cases hmkdir : check (disk.mkdir = true) diskError with
    | error e => exact .inl (leaves_given_error rfl files)
    | ok u =>
      rw [leaves_given rfl files]
      dsimp only
      cases hpath : service.resolveWithinStorage (subDir.name ++ "/" ++ uniqueName disk.now fileName) with
      | error e => exact .inl (leaves_given_error rfl files)
      | ok path =>
        rw [leaves_given rfl files, resolve_saved hpath]
        exact .inr ⟨_, (leaves_then (writeFile disk _ buffer) _).trans (leaves_writeFile disk _ buffer files)⟩

/-- A file that is deleted is below the root, or is the root. -/
theorem leaves_deleteFile (service : StorageService) (disk : Disk β) (filePath : String) (files : Files β) :
    leaves (service.deleteFile disk filePath) files = files ∨
      service.directory <+: leadsTo service.directory filePath ∧ leaves (service.deleteFile disk filePath) files =
        Function.update files (pathOf (leadsTo service.directory filePath)) none := by
  unfold StorageService.deleteFile
  cases hpath : service.resolveWithinStorage filePath with
  | error e => exact .inl (leaves_given_error rfl files)
  | ok path =>
    rw [leaves_given rfl files, leaves_only_modify]
    obtain ⟨hleads, hinside⟩ := resolveWithinStorage_eq_ok.mp hpath
    split_ifs with haccess
    · rw [hleads]
      refine .inr ⟨?_, rfl⟩
      rcases hinside with hroot | ⟨-, hbelow⟩
      · exact ⟨[], by rw [List.append_nil, hroot]⟩
      · exact hbelow
    · exact .inl rfl

theorem leaves_readFile (disk : Disk β) (filePath : String) (files : Files β) :
    leaves (service.readFile disk filePath) files = files := by
  unfold StorageService.readFile
  cases hpath : service.resolveWithinStorage filePath with
  | error e => exact leaves_given_error rfl files
  | ok path =>
    rw [leaves_given rfl files]
    exact leaves_only_reads _ files

/-- The call writes to the file that is saved at this time under this name, or deletes it. -/
def Touches (service : StorageService) (t : Nat) (fileName : String) (subDir : SubDir) (call : StorageCall β) : Prop :=
  match call.op with
  | .saveFile _ fileName' subDir' =>
    subDir' = subDir ∧ call.disk.now = t ∧ sanitizeFileName fileName' = sanitizeFileName fileName
  | .readFile _ => False
  | .deleteFile filePath => leadsTo service.directory filePath = service.directory ++ savedAt t fileName subDir

/-- A file that a call changes is one that it saves, or is deleted. -/
theorem changed_of_step (hs : (storing service).step files call files') {path : String} (h : files' path ≠ files path) :
    (∃ buffer fileName subDir, call.op = .saveFile buffer fileName subDir ∧
        path = service.savedPath call.disk.now fileName subDir) ∨
      ∃ filePath, call.op = .deleteFile filePath ∧ path = pathOf (leadsTo service.directory filePath) ∧
        service.directory <+: leadsTo service.directory filePath ∧ files' path = none := by
  have hleft := leaves_of_storing hs
  obtain ⟨disk, op, answer⟩ := call
  cases op with
  | saveFile buffer fileName subDir =>
    rw [hleft.trans (leaves_then (service.saveFile disk buffer fileName subDir) _)] at h
    refine .inl ⟨buffer, fileName, subDir, rfl, ?_⟩
    rcases leaves_saveFile service disk buffer fileName subDir files with hsame | ⟨content, hwritten⟩
    · exact absurd (congrFun hsame path) h
    · by_contra hother
      exact h (by rw [hwritten, Function.update_of_ne hother])
  | readFile filePath =>
    rw [hleft.trans ((leaves_then (service.readFile disk filePath) _).trans (leaves_readFile disk filePath files))] at h
    exact absurd rfl h
  | deleteFile filePath =>
    have hleft := hleft.trans (leaves_then (service.deleteFile disk filePath) _)
    rcases leaves_deleteFile service disk filePath files with hsame | ⟨hbelow, hdeleted⟩
    · rw [hleft, hsame] at h
      exact absurd rfl h
    · rw [hleft, hdeleted] at h ⊢
      by_cases hpath : path = pathOf (leadsTo service.directory filePath)
      · refine .inr ⟨filePath, rfl, hpath, hbelow, ?_⟩
        rw [hpath, Function.update_self]
      · rw [Function.update_of_ne hpath] at h
        exact absurd rfl h

/-- A call that does not touch a saved file leaves it. -/
theorem saved_of_step (hs : (storing service).step files call files') {t : Nat} {fileName : String} {subDir : SubDir}
    (h : ¬ Touches service t fileName subDir call) :
    files' (service.savedPath t fileName subDir) = files (service.savedPath t fileName subDir) := by
  have hplain : ∀ t fileName subDir, Plain '/' '.' (service.directory ++ savedAt t fileName subDir) :=
    fun t fileName subDir => service.plain_directory.append (plain_savedAt t fileName subDir)
  by_contra hchanged
  refine h ?_
  obtain ⟨disk, op, answer⟩ := call
  rcases changed_of_step hs hchanged with ⟨buffer, other, dir, rfl, hpath⟩ | ⟨filePath, rfl, hpath, -, -⟩
  · have hsame := (pathOf_inj (hplain _ _ _) (hplain _ _ _)).mp hpath
    rw [List.append_cancel_left_eq] at hsame
    obtain ⟨rfl, rfl, hname⟩ := savedAt_inj hsame
    exact ⟨rfl, rfl, hname.symm⟩
  · exact ((pathOf_inj (hplain _ _ _) (plain_leadsTo service.plain_directory filePath)).mp hpath).symm

/-- What a call that saves has done. -/
theorem saved_of_answer (hs : (storing service).step files call files') {buffer : β} {fileName relativePath : String}
    {subDir : SubDir} (hop : call.op = .saveFile buffer fileName subDir) (hanswer : call.answer = .ok (.path relativePath)) :
    relativePath = subDir.name ++ "/" ++ uniqueName call.disk.now fileName ∧ service.directory ≠ [] ∧
      files' (service.savedPath call.disk.now fileName subDir) = some buffer := by
  obtain ⟨disk, op, answer⟩ := call
  dsimp only at hop hanswer ⊢
  subst hop hanswer
  have hran : answerWith (StorageOp.run service disk (.saveFile buffer fileName subDir) files) =
      (.ok (.path relativePath), files') := hs
  have hreturns : StorageOp.run service disk (.saveFile buffer fileName subDir) files = .ok (.path relativePath) files' := by
    unfold answerWith at hran
    split at hran
    · rename_i answer left hrun
      obtain ⟨hanswer, rfl⟩ := Prod.mk.injEq .. ▸ hran
      rw [hrun, Except.ok.inj hanswer]
    · cases hran
  unfold StorageOp.run StorageService.saveFile writeFile at hreturns
  simp only [returns_bind, returns_reads, returns_pure, StorageAnswer.path.injEq] at hreturns
  obtain ⟨_, _, ⟨_, _, ⟨-, rfl⟩, _, _, ⟨-, rfl⟩, path, _, ⟨hpath, rfl⟩, _, _, hwritten, rfl, rfl⟩, rfl, rfl⟩ := hreturns
  obtain ⟨_, _, hmodified, haccess, rfl⟩ := hwritten
  rw [returns_modify] at hmodified
  have hleads := (resolveWithinStorage_eq_ok.mp hpath).2
  rw [leadsTo_saved] at hleads
  refine ⟨rfl, ?_, ?_⟩
  · rcases hleads with hroot | ⟨hroot, -⟩
    · exact absurd (List.append_right_eq_self.mp hroot) (List.cons_ne_nil _ _)
    · exact hroot
  · rw [hmodified, resolve_saved hpath, Function.update_self, if_pos (check_eq_ok.mp haccess)]

theorem answer_of_read (hs : (storing service).step files call files') {filePath path : String} {content : β}
    (hop : call.op = .readFile filePath) (hpath : service.resolveWithinStorage filePath = .ok path)
    (hfile : files path = some content) :
    call.answer = if call.disk.access then .ok (.buffer content) else .error diskError := by
  obtain ⟨disk, op, answer⟩ := call
  dsimp only at hop ⊢
  subst hop
  have hran : answerWith (StorageOp.run service disk (.readFile filePath) files) = (answer, files') := hs
  have hread : readBuffer disk filePath path files = if disk.access then .ok content else .error diskError := by
    unfold readBuffer
    rw [hfile]
    cases disk.access <;> rfl
  simp only [StorageOp.run, StorageService.readFile, bind, EStateM.bind, reads, hpath, hread] at hran
  cases haccess : disk.access with
  | true =>
    rw [haccess] at hran
    exact (congrArg Prod.fst hran).symm
  | false =>
    rw [haccess] at hran
    exact (congrArg Prod.fst hran).symm

/-! A report that is saved and read again, by another path to it, while a report of another time is deleted. -/

def reportStorage : StorageService := ⟨"/srv/app", "./storage"⟩

/-- A call of the service on a disk that works. -/
def reportCall (files : Files String) (now : Nat) (op : StorageOp String) : Transition (Files String) (StorageCall String) :=
  let result := answerWith (op.run reportStorage ⟨now, true, true, id⟩ files)
  ⟨files, ⟨⟨now, true, true, id⟩, op, result.1⟩, result.2⟩

theorem step_reportCall (files : Files String) (now : Nat) (op : StorageOp String) :
    (storing reportStorage).step files (reportCall files now op).label (reportCall files now op).after := rfl

theorem run_reportCall {history : List (Transition (Files String) (StorageCall String))} {files : Files String}
    (h : Run (storing reportStorage) history files) (now : Nat) (op : StorageOp String) :
    Run (storing reportStorage) (history ++ [reportCall files now op]) (reportCall files now op).after :=
  h.step (step_reportCall files now op)

def noFiles : Files String := fun _ => none

def reportSaved : Transition (Files String) (StorageCall String) :=
  reportCall noFiles 1700 (.saveFile "March" "Report 1.pdf" .documents)

def otherDeleted : Transition (Files String) (StorageCall String) :=
  reportCall reportSaved.after 1800 (.deleteFile "documents/1699-Report_1.pdf")

def reportRead : Transition (Files String) (StorageCall String) :=
  reportCall otherDeleted.after 1900 (.readFile "temp/../documents//1700-Report_1.pdf")

/-! ## Runs of calls -/

/-- **No file outside the storage is touched**: a file that some calls have changed is in the storage, and one that is there
afterwards has been saved in one of its directories. -/
theorem writes_below_root {steps : List (Transition (Files β) (StorageCall β))}
    (h : Segment (storing service) files steps files') {path : String} (hchanged : files' path ≠ files path) :
    ∃ below, Plain '/' '.' below ∧ path = pathOf (service.directory ++ below) ∧
      (files' path ≠ none → ∃ t fileName subDir, below = savedAt t fileName subDir) := by
  induction h with
  | nil a => exact absurd rfl hchanged
  | @cons a b c call rest hs hrest ih =>
    by_cases hlater : c path = b path
    · rw [hlater] at hchanged ⊢
      rcases changed_of_step hs hchanged with ⟨buffer, fileName, subDir, -, rfl⟩ | ⟨filePath, -, hpath, hbelow, hnone⟩
      · exact ⟨savedAt call.disk.now fileName subDir, plain_savedAt _ _ _, rfl, fun _ => ⟨_, _, _, rfl⟩⟩
      · obtain ⟨below, hleads⟩ := hbelow
        refine ⟨below, fun s hs => ?_, hleads ▸ hpath, fun hsome => absurd hnone hsome⟩
        refine plain_leadsTo service.plain_directory filePath s ?_
        rw [← hleads]
        exact List.mem_append_right _ hs
    · exact ih hlater

theorem writes_below_root_report : ∃ below, Plain '/' '.' below ∧
    reportStorage.savedPath 1700 "Report 1.pdf" .documents = pathOf (reportStorage.directory ++ below) ∧
      (reportSaved.after (reportStorage.savedPath 1700 "Report 1.pdf" .documents) ≠ none →
        ∃ t fileName subDir, below = savedAt t fileName subDir) :=
  writes_below_root (.cons (step_reportCall _ _ _) (.nil _)) (by decide +kernel)

/-- **A saved file is read as it was saved**: until a call of the same millisecond saves a file whose name is sanitized
alike, or one deletes the file, every path that leads to it reads its content, whatever else is saved or deleted. -/
theorem saved_reads_back {history : List (Transition (Files β) (StorageCall β))} (h : Run (storing service) history files)
    {past between later : List (Transition (Files β) (StorageCall β))}
    {saving reading : Transition (Files β) (StorageCall β)}
    (heq : history = past ++ saving :: (between ++ reading :: later)) {buffer : β} {fileName relativePath : String}
    {subDir : SubDir} (hsave : saving.label.op = .saveFile buffer fileName subDir)
    (hsaved : saving.label.answer = .ok (.path relativePath))
    (huntouched : ∀ e ∈ between, ¬ Touches service saving.label.disk.now fileName subDir e.label) {filePath : String}
    (hread : reading.label.op = .readFile filePath)
    (hpath : leadsTo service.directory filePath = leadsTo service.directory relativePath) :
    reading.label.answer = if reading.label.disk.access then .ok (.buffer buffer) else .error diskError := by
  obtain ⟨b, hrun, hrest⟩ := h.split (heq.trans (List.append_assoc past (saving :: between) (reading :: later)).symm)
  obtain ⟨-, hs, hbetween⟩ := hrun.around
  obtain ⟨hrelative, hroot, hcontent⟩ := saved_of_answer hs hsave hsaved
  rw [hrelative, leadsTo_saved] at hpath
  obtain ⟨hkept, -⟩ := hbetween.always
    (I := fun f => f (service.savedPath saving.label.disk.now fileName subDir) = some buffer)
    (P := fun e => ¬ Touches service saving.label.disk.now fileName subDir e.label)
    (fun a call b hI hs hP => (saved_of_step hs hP).trans hI) hcontent huntouched
  have hresolved : service.resolveWithinStorage filePath =
      .ok (service.savedPath saving.label.disk.now fileName subDir) := by
    rw [resolveWithinStorage_eq_ok, hpath]
    exact ⟨rfl, .inr ⟨hroot, List.prefix_append _ _⟩⟩
  cases hrest with
  | cons hs _ => exact answer_of_read hs hread hresolved hkept

theorem saved_reads_back_report : reportRead.label.answer = .ok (.buffer "March") := by
  have hstart : Run (storing reportStorage) [] noFiles := .init trivial
  have hsaved : Run (storing reportStorage) [reportSaved] reportSaved.after := run_reportCall hstart 1700 _
  have hdeleted : Run (storing reportStorage) [reportSaved, otherDeleted] otherDeleted.after := run_reportCall hsaved 1800 _
  have hrun : Run (storing reportStorage) [reportSaved, otherDeleted, reportRead] reportRead.after :=
    run_reportCall hdeleted 1900 _
  have huntouched : ∀ e ∈ [otherDeleted], ¬ Touches reportStorage 1700 "Report 1.pdf" .documents e.label := by
    intro e he
    rw [List.mem_singleton.mp he]
    show ¬ leadsTo reportStorage.directory "documents/1699-Report_1.pdf" =
      reportStorage.directory ++ savedAt 1700 "Report 1.pdf" .documents
    decide +kernel
  have horder : [reportSaved, otherDeleted, reportRead] = [] ++ reportSaved :: ([otherDeleted] ++ reportRead :: []) := rfl
  exact (saved_reads_back hrun horder rfl
    (show reportSaved.label.answer = .ok (.path "documents/1700-Report_1.pdf") by decide +kernel) huntouched rfl
    (by decide +kernel)).trans (if_pos rfl)

end

end ComplianceHub.Documents
