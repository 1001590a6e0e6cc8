import ComplianceHub.References.Completed

/-!
# The lifecycle history

* `Chronicle` : the register with the history; `LifecycleCall.run` : the operations, with the entries they write;
* `Chain`, `Chained` : the entries of an issuance lead from none to its stored status;
* `BlanksStatus` : an update that gives a falsy status, which is stored and not recorded;
* `history_is_chained_iff` : the runs in which every history is a chain.
-/

namespace ComplianceHub.References

open ComplianceHub.Lib

structure LifecycleEntry where
  issuanceId : Nat
  fromStatus : Option String
  toStatus : String
  reason : String
deriving DecidableEq, Repr

structure Chronicle where
  db : Register := {}
  /-- In the order of creation. -/
  lifecycleHistory : List LifecycleEntry := []

abbrev ChronicleM := EStateM HttpException Chronicle

/-- A call on the register. -/
def onRegister {α : Type} (m : RegisterM α) : ChronicleM α := fun c =>
  match m c.db with
  | .ok a db => .ok a { c with db }
  | .error e db => .error e { c with db }

def record (entry : LifecycleEntry) : ChronicleM Unit :=
  modify fun c => { c with lifecycleHistory := c.lifecycleHistory ++ [entry] }

namespace Chronicle

def createIssuance (s : Services) (dto : CreateIssuanceDto) : ChronicleM Unit := do
  let id ← reads fun c => .ok (nextId (c.db.issuances.map Issuance.id))
  onRegister (References.createIssuance s dto)
  let reason ← reads fun _ => trimmed dto.status_reason
  record ⟨id, none, orElse dto.lifecycle_status "under_review", reason.getD "Issuance created"⟩

def updateIssuance (s : Services) (id : Nat) (dto : IssuanceDto) : ChronicleM Unit := do
  let previous ← reads fun c => .ok (c.db.issuance? id)
  onRegister (References.updateIssuance s id dto)
  let previousLifecycle := (previous.map Issuance.lifecycle_status).getD ""
  let nextLifecycle := orElse dto.lifecycle_status previousLifecycle
  if nextLifecycle ≠ previousLifecycle then do
    let reason ← reads fun _ => trimmed dto.status_reason
    record ⟨id, some previousLifecycle, nextLifecycle, reason.getD ""⟩

/-- The entries of an issuance that is removed go with it. -/
def deleteIssuance (id : Nat) : ChronicleM Unit := do
  let issuance ← reads fun c => c.db.findIssuance id
  let unused ← reads fun c => .ok (c.db.isUnusedDraft issuance)
  onRegister (References.deleteIssuance id)
  if unused then modify fun c => { c with lifecycleHistory := c.lifecycleHistory.filter fun entry => entry.issuanceId ≠ id }
  else if issuance.lifecycle_status ≠ "retired" then
    record ⟨id, some issuance.lifecycle_status, "retired", "Retired through the Issuances management workflow"⟩

def entriesOf (c : Chronicle) (id : Nat) : List LifecycleEntry :=
  c.lifecycleHistory.filter fun entry => entry.issuanceId = id

end Chronicle

inductive LifecycleCall where
  | createIssuance (dto : CreateIssuanceDto)
  | updateIssuance (id : Nat) (dto : IssuanceDto)
  | deleteIssuance (id : Nat)
  | decideRegisterInclusion (issuanceId : Nat) (decision : RegisterDecision) (dto : DecisionDto)

def LifecycleCall.run (s : Services) : LifecycleCall → ChronicleM Unit
  | createIssuance dto => Chronicle.createIssuance s dto
  | updateIssuance id dto => Chronicle.updateIssuance s id dto
  | deleteIssuance id => Chronicle.deleteIssuance id
  | decideRegisterInclusion issuanceId decision dto =>
    onRegister (References.decideRegisterInclusion issuanceId decision dto)

/-- Completed calls one after the other, from a register without issuances. -/
def lifecycles : System Chronicle (Services × LifecycleCall) where
  init c := c.db.issuances = [] ∧ c.lifecycleHistory = []
  step c l c' := l.2.run l.1 c = .ok () c'

/-! ## Chains -/

/-- Entries that lead from one status to another, each from where the one before has led, and to another status. -/
def Chain : Option String → List LifecycleEntry → Option String → Prop
  | first, [], last => first = last
  | first, entry :: rest, last =>
    entry.fromStatus = first ∧ some entry.toStatus ≠ first ∧ Chain (some entry.toStatus) rest last

/-- The history of every issuance leads to its status, and it is active by its status. -/
def Chained (c : Chronicle) : Prop :=
  ∀ issuance ∈ c.db.issuances, Chain none (c.entriesOf issuance.id) (some issuance.lifecycle_status) ∧
    (issuance.is_active = true ↔ issuance.lifecycle_status = "active")

/-- An update gives a status that is falsy. -/
def BlanksStatus : LifecycleCall → Prop
  | .updateIssuance _ dto => ∃ value, dto.lifecycle_status = some value ∧ value.truthy = false
  | _ => False

theorem Chain.concat {first last : Option String} {entries : List LifecycleEntry} {entry : LifecycleEntry}
    (h : Chain first entries last) (hfrom : entry.fromStatus = last) (hto : some entry.toStatus ≠ last) :
    Chain first (entries ++ [entry]) (some entry.toStatus) := by
  induction entries generalizing first with
  | nil =>
    obtain rfl : first = last := h
    exact ⟨hfrom, hto, rfl⟩
  | cons entry rest ih =>
    obtain ⟨hfirst, hnext, hrest⟩ := h
    exact ⟨hfirst, hnext, ih hrest⟩

/-- A chain from none ends with its last entry. -/
theorem Chain.mem {entries : List LifecycleEntry} {status : String} {first : Option String}
    (h : Chain first entries (some status)) : first = some status ∨ ∃ entry ∈ entries, entry.toStatus = status := by
  induction entries generalizing first with
  | nil => exact .inl h
  | cons entry rest ih =>
    obtain ⟨-, -, hrest⟩ := h
    rcases ih hrest with hhead | ⟨other, hother, hstatus⟩
    · exact .inr ⟨entry, List.mem_cons_self, Option.some.inj hhead⟩
    · exact .inr ⟨other, List.mem_cons_of_mem _ hother, hstatus⟩

/-! ## Statuses of a body -/

section
variable {s : Services} {db : Register} {id : Nat} {row : Issuance} {catalog : Catalog}

/-- A status is not given, or one of the list, or falsy. -/
theorem status_of_assertAllowed {value : Option Json} {allowed : List String} {label : String} {u : Unit}
    (h : assertAllowed value allowed label = .ok u) :
    value = none ∨ (∃ text ∈ allowed, value = some (.string text)) ∨ ∃ falsy, value = some falsy ∧ falsy.truthy = false := by
  unfold assertAllowed at h
  rw [check_eq_ok] at h
  cases value with
  | none => exact .inl rfl
  | some value =>
    cases htruthy : value.truthy with
    | false => exact .inr (.inr ⟨value, rfl, htruthy⟩)
    | true =>
      obtain ⟨text, hmem, htext⟩ := List.any_eq_true.mp (h htruthy)
      rw [show value = .string text from Json.eq_of_isText htext]
      exact .inr (.inl ⟨text, hmem, rfl⟩)

theorem orElse_of_falsy {value : Json} (h : value.truthy = false) (fallback : String) :
    orElse (some value) fallback = fallback := by
  cases value with
  | string text =>
    have htext : text = "" := by simpa [Json.truthy] using h
    subst htext
    rfl
  | _ => rfl

theorem orElse_of_status {text : String} (h : text ∈ LIFECYCLE_STATUSES) (fallback : String) :
    orElse (some (.string text)) fallback = text := by
  have hne : text ≠ "" := by
    rintro rfl
    exact absurd h (by decide)
  exact if_neg hne

/-- The text of a falsy value is no status. -/
theorem text_of_falsy {value : Json} {text : String} (h : value.truthy = false) (htext : requiredText s value = .ok text) :
    text ∉ LIFECYCLE_STATUSES := by
  have hzero : "0" ∉ LIFECYCLE_STATUSES := by decide
  cases value with
  | null => cases htext
  | bool b =>
    cases b with
    | false =>
      cases htext
      exact hzero
    | true => cases h
  | number n =>
    have hn : n = 0 := by simpa [Json.truthy] using h
    subst hn
    have htext : Except.ok (numberText 0) = Except.ok text := htext
    rw [show numberText 0 = "0" by decide +kernel] at htext
    cases htext
    exact hzero
  | string t =>
    have ht : t = "" := by simpa [Json.truthy] using h
    subst ht
    cases htext
    decide
  | array items => cases h
  | object fields => cases h

theorem lifecycle_of_validate {dto : IssuanceDto} {u : Unit} (h : validateArchitectureFields dto = .ok u) :
    dto.lifecycle_status = none ∨ (∃ text ∈ LIFECYCLE_STATUSES, dto.lifecycle_status = some (.string text)) ∨
      ∃ falsy, dto.lifecycle_status = some falsy ∧ falsy.truthy = false := by
  simp only [validateArchitectureFields, bind_eq_ok] at h
  obtain ⟨_, -, _, hlifecycle, -⟩ := h
  exact status_of_assertAllowed hlifecycle

theorem orElse_mem {dto : IssuanceDto} {u : Unit} (h : validateArchitectureFields dto = .ok u) {fallback : String}
    (hfallback : fallback ∈ LIFECYCLE_STATUSES) : orElse dto.lifecycle_status fallback ∈ LIFECYCLE_STATUSES := by
  rcases lifecycle_of_validate h with hnone | ⟨text, hmem, hsome⟩ | ⟨value, hsome, hfalsy⟩
  · rw [hnone]
    exact hfallback
  · rw [hsome, orElse_of_status hmem]
    exact hmem
  · rw [hsome, orElse_of_falsy hfalsy]
    exact hfallback

theorem createdRow_lifecycle {dto : CreateIssuanceDto} (h : createdRow s db dto = .ok (row, catalog)) :
    row.id = nextId (db.issuances.map Issuance.id) ∧ row.lifecycle_status = orElse dto.lifecycle_status "under_review" ∧
      (row.is_active = true ↔ row.lifecycle_status = "active") ∧ row.lifecycle_status ∈ LIFECYCLE_STATUSES := by
  simp only [createdRow, createdCatalog, bind_eq_ok] at h
  obtain ⟨catalog', ⟨_, hvalid, domains, -, _, -, _, -, hcatalog⟩, _, -, _, -, _, -, row', hrow, h⟩ := h
  cases h
  cases hcatalog
  simp only [Catalog.columns, bind_eq_ok] at hrow
  obtain ⟨lifecycle, hlifecycle, _, -, _, -, _, -, _, -, _, -, _, -, hrow⟩ := hrow
  cases hrow
  obtain rfl := Except.ok.inj hlifecycle
  exact ⟨rfl, rfl, decide_eq_true_iff, orElse_mem hvalid (by decide)⟩

theorem updatedRow_lifecycle {dto : IssuanceDto} (h : updatedRow s db id dto = .ok (row, catalog)) :
    ∃ issuance u, db.findIssuance id = .ok issuance ∧ validateArchitectureFields dto = .ok u ∧ row.id = id ∧
      requiredText s (dto.lifecycle_status.getD (.string issuance.lifecycle_status)) = .ok row.lifecycle_status ∧
      (row.is_active = true ↔ orElse dto.lifecycle_status issuance.lifecycle_status = "active") := by
  simp only [updatedRow, updatedCatalog, bind_eq_ok] at h
  obtain ⟨u, hvalid, issuance, hfound, catalog', ⟨_, -, domains, -, _, -, _, -, hcatalog⟩, row', hrow, h⟩ := h
  cases h
  cases hcatalog
  simp only [Catalog.columns, bind_eq_ok] at hrow
  obtain ⟨lifecycle, hlifecycle, _, -, _, -, _, -, _, -, _, -, _, -, hrow⟩ := hrow
  cases hrow
  exact ⟨issuance, u, hfound, hvalid, (findIssuance_eq_ok hfound).2, hlifecycle, decide_eq_true_iff⟩

/-- A status that is not falsy is stored as the one that is compared. -/
theorem lifecycle_of_truthy {dto : IssuanceDto} {previous next : String} {u : Unit}
    (hvalid : validateArchitectureFields dto = .ok u)
    (htruthy : ¬ ∃ value, dto.lifecycle_status = some value ∧ value.truthy = false)
    (htext : requiredText s (dto.lifecycle_status.getD (.string previous)) = .ok next) :
    next = orElse dto.lifecycle_status previous := by
  rcases lifecycle_of_validate hvalid with hnone | ⟨text, hmem, hsome⟩ | hfalsy
  · rw [hnone] at htext ⊢
    exact (Except.ok.inj htext).symm
  · rw [hsome] at htext ⊢
    rw [orElse_of_status hmem]
    exact (Except.ok.inj htext).symm
  · exact absurd hfalsy htruthy

theorem decidedRow_lifecycle {decision : RegisterDecision} {dto : DecisionDto} (h : decidedRow db id decision dto = .ok row) :
    ∃ issuance, db.findIssuance id = .ok issuance ∧ row.id = id ∧ row.lifecycle_status = issuance.lifecycle_status ∧
      row.is_active = issuance.is_active := by
  simp only [decidedRow, bind_eq_ok] at h
  obtain ⟨issuance, hfound, _, -, _, -, _, -, domains, -, _, -, h⟩ := h
  cases h
  exact ⟨issuance, hfound, (findIssuance_eq_ok hfound).2, rfl, rfl⟩

end

/-! ## What a call records -/

theorem onRegister_returns {α : Type} {m : RegisterM α} {c c' : Chronicle} {a : α} :
    onRegister m c = .ok a c' ↔ ∃ db, m c.db = .ok a db ∧ c' = { c with db } := by
  unfold onRegister
  cases m c.db with
  | ok b db =>
    constructor
    · intro h
      cases h
      exact ⟨db, rfl, rfl⟩
    · rintro ⟨_, h, rfl⟩
      cases h
      rfl
  | error e db => simp

section
variable {s : Services} {c c' : Chronicle}

/-- What a completed call does to the statuses and to their history. -/
inductive Recording (c : Chronicle) : Chronicle → Prop where
  | created {row : Issuance} {db : Register} (reason : String) : db.issuances = c.db.issuances ++ [row] →
      row.id = nextId (c.db.issuances.map Issuance.id) → row.lifecycle_status ∈ LIFECYCLE_STATUSES →
      (row.is_active = true ↔ row.lifecycle_status = "active") →
      Recording c ⟨db, c.lifecycleHistory ++ [⟨row.id, none, row.lifecycle_status, reason⟩]⟩
  | moved {issuance row : Issuance} {db : Register} (reason : String) : issuance ∈ c.db.issuances → row.id = issuance.id →
      db.issuances = (c.db.saveIssuance row).issuances → row.lifecycle_status ∈ LIFECYCLE_STATUSES →
      row.lifecycle_status ≠ issuance.lifecycle_status → (row.is_active = true ↔ row.lifecycle_status = "active") →
      Recording c
        ⟨db, c.lifecycleHistory ++ [⟨issuance.id, some issuance.lifecycle_status, row.lifecycle_status, reason⟩]⟩
  | stayed {issuance row : Issuance} {db : Register} : issuance ∈ c.db.issuances → row.id = issuance.id →
      db.issuances = (c.db.saveIssuance row).issuances → row.lifecycle_status = issuance.lifecycle_status →
      ((issuance.is_active = true ↔ issuance.lifecycle_status = "active") →
        (row.is_active = true ↔ row.lifecycle_status = "active")) →
      Recording c ⟨db, c.lifecycleHistory⟩
  | removed {db : Register} (id : Nat) : db.issuances = c.db.issuances.filter (fun row => row.id ≠ id) →
      Recording c ⟨db, c.lifecycleHistory.filter fun entry => entry.issuanceId ≠ id⟩
  | kept : Recording c c

/-- A text that is no status is stored, and the history is as it was. -/
structure Blanking (c c' : Chronicle) : Prop where
  history : c'.lifecycleHistory = c.lifecycleHistory
  stored : ∃ issuance ∈ c.db.issuances, ∃ row, row.id = issuance.id ∧ row.lifecycle_status ∉ LIFECYCLE_STATUSES ∧
    c'.db.issuances = (c.db.saveIssuance row).issuances

theorem createIssuance_records {dto : CreateIssuanceDto} (h : Chronicle.createIssuance s dto c = .ok () c') :
    Recording c c' := by
  unfold Chronicle.createIssuance record at h
  simp only [returns_bind, returns_reads, returns_modify, onRegister_returns] at h
  obtain ⟨_, _, ⟨hid, rfl⟩, _, _, ⟨db, hcreated, rfl⟩, reason, _, ⟨-, rfl⟩, rfl⟩ := h
  obtain rfl := Except.ok.inj hid
  obtain ⟨row, catalog, amended, url, _, hrow, -, -, -, rfl⟩ := createIssuance_returns hcreated
  obtain ⟨hid, hstatus, hactive, hmem⟩ := createdRow_lifecycle hrow
  rw [← hstatus, ← hid]
  exact .created (reason.getD "Issuance created") (syncedSources_issuances _ _) hid hmem hactive

theorem updateIssuance_records {id : Nat} {dto : IssuanceDto} (h : Chronicle.updateIssuance s id dto c = .ok () c') :
    (¬ BlanksStatus (.updateIssuance id dto) ∧ Recording c c') ∨
      (BlanksStatus (.updateIssuance id dto) ∧ Blanking c c') := by
  unfold Chronicle.updateIssuance at h
  simp only [returns_bind, returns_reads, onRegister_returns] at h
  obtain ⟨previous, c, ⟨hprevious, rfl⟩, _, _, ⟨db, hupdated, rfl⟩, h⟩ := h
  obtain ⟨row, catalog, amended, url, hrow, -, -, rfl⟩ := updateIssuance_returns hupdated
  obtain ⟨issuance, u, hfound, hvalid, hid, htext, hactive⟩ := updatedRow_lifecycle hrow
  obtain ⟨hmem, hof⟩ := findIssuance_eq_ok hfound
  have hprevious : previous = some issuance := by
    rw [← Except.ok.inj hprevious]
    unfold Register.findIssuance at hfound
    split at hfound
    · rename_i found hissuance
      rw [hissuance, Except.ok.inj hfound]
    · cases hfound
  subst hprevious
  dsimp only [Option.map_some, Option.getD_some] at h
  have hissuances : (syncedSources s id url ((c.db.saveIssuance row).relate id amended)).issuances =
      (c.db.saveIssuance row).issuances := syncedSources_issuances _ _
  by_cases hfalsy : ∃ value, dto.lifecycle_status = some value ∧ value.truthy = false
  · obtain ⟨value, hsome, hvalue⟩ := hfalsy
    have hsame : orElse dto.lifecycle_status issuance.lifecycle_status = issuance.lifecycle_status := by
      rw [hsome, orElse_of_falsy hvalue]
    rw [if_neg (not_not_intro hsame)] at h
    obtain ⟨-, rfl⟩ := returns_pure.mp h
    rw [hsome] at htext
    exact .inr ⟨⟨value, hsome, hvalue⟩, rfl, issuance, hmem, row, hid.trans hof.symm, text_of_falsy hvalue htext, hissuances⟩
  · refine .inl ⟨hfalsy, ?_⟩
    have hnext := lifecycle_of_truthy hvalid hfalsy htext
    rw [← hnext] at hactive
    by_cases hsame : orElse dto.lifecycle_status issuance.lifecycle_status = issuance.lifecycle_status
    · rw [if_neg (not_not_intro hsame)] at h
      obtain ⟨-, rfl⟩ := returns_pure.mp h
      exact .stayed hmem (hid.trans hof.symm) hissuances (hnext.trans hsame) fun _ => hactive
    · rw [if_pos hsame] at h
      unfold record at h
      simp only [returns_bind, returns_reads, returns_modify] at h
      obtain ⟨reason, c, ⟨-, rfl⟩, rfl⟩ := h
      rw [← hnext] at hsame
      rw [← hof] at hissuances hid
      rw [← hof, ← hnext]
      refine .moved (reason.getD "") hmem hid hissuances ?_ hsame hactive
      rcases lifecycle_of_validate hvalid with hnone | ⟨text, htextmem, hsome⟩ | hblank
      · rw [hnone] at hnext
        exact absurd hnext hsame
      · rw [hnext, hsome, orElse_of_status htextmem]
        exact htextmem
      · exact absurd hblank hfalsy

theorem deleteIssuance_records {id : Nat} (h : Chronicle.deleteIssuance id c = .ok () c') : Recording c c' := by
  unfold Chronicle.deleteIssuance at h
  simp only [returns_bind, returns_reads, onRegister_returns] at h
  obtain ⟨issuance, c, ⟨hfound, rfl⟩, unused, c, ⟨hunused, rfl⟩, _, _, ⟨db, hdeleted, rfl⟩, h⟩ := h
  obtain ⟨_, hfound', rfl⟩ := deleteIssuance_returns hdeleted
  rw [hfound] at hfound'
  obtain rfl := Except.ok.inj hfound'
  obtain rfl := Except.ok.inj hunused
  obtain ⟨hmem, hof⟩ := findIssuance_eq_ok hfound
  by_cases hdraft : c.db.isUnusedDraft issuance = true
  · rw [if_pos hdraft, returns_modify] at h
    subst h
    exact .removed id (by rw [if_pos hdraft]; rfl)
  · rw [if_neg hdraft] at h
    by_cases hretired : issuance.lifecycle_status = "retired"
    · rw [if_neg (not_not_intro hretired)] at h
      obtain ⟨-, rfl⟩ := returns_pure.mp h
      rw [if_neg hdraft, if_pos hretired]
      exact .kept
    · rw [if_pos hretired] at h
      unfold record at h
      rw [returns_modify] at h
      subst h
      rw [if_neg hdraft, if_neg hretired, ← hof]
      refine Recording.moved "Retired through the Issuances management workflow" hmem (rfl : (retired issuance).id = _) rfl
        ?_ ?_ ?_
      · show "retired" ∈ LIFECYCLE_STATUSES
        decide
      · exact fun h => hretired h.symm
      · show false = true ↔ "retired" = "active"
        decide

theorem decideRegisterInclusion_records {id : Nat} {decision : RegisterDecision} {dto : DecisionDto}
    (h : onRegister (decideRegisterInclusion id decision dto) c = .ok () c') : Recording c c' := by
  obtain ⟨db, hdecided, rfl⟩ := onRegister_returns.mp h
  obtain ⟨row, hrow, rfl⟩ := decideRegisterInclusion_returns hdecided
  obtain ⟨issuance, hfound, hid, hstatus, hactive⟩ := decidedRow_lifecycle hrow
  obtain ⟨hmem, hof⟩ := findIssuance_eq_ok hfound
  refine .stayed hmem (hid.trans hof.symm) rfl hstatus fun hissuance => ?_
  rw [hactive, hstatus]
  exact hissuance

end

/-! ## Runs -/

/-- The entries are of stored issuances, each with its own id, and lead to statuses of the list. -/
structure Recorded (c : Chronicle) : Prop where
  ids : (c.db.issuances.map Issuance.id).Nodup
  owned : ∀ entry ∈ c.lifecycleHistory, ∃ issuance ∈ c.db.issuances, issuance.id = entry.issuanceId
  statuses : ∀ entry ∈ c.lifecycleHistory, entry.toStatus ∈ LIFECYCLE_STATUSES

section
variable {c c' : Chronicle}

theorem owned_save {issuances : List Issuance} {row : Issuance} {entry : LifecycleEntry}
    (hissuances : issuances = (c.db.saveIssuance row).issuances)
    (howned : ∃ issuance ∈ c.db.issuances, issuance.id = entry.issuanceId) :
    ∃ issuance ∈ issuances, issuance.id = entry.issuanceId := by
  have hids : issuances.map Issuance.id = c.db.issuances.map Issuance.id := by
    rw [hissuances]
    exact ids_saveIssuance row
  obtain ⟨issuance, hmem, hid⟩ := howned
  have hmem := List.mem_map_of_mem (f := Issuance.id) hmem
  rw [← hids] at hmem
  obtain ⟨saved, hsaved, hsame⟩ := List.mem_map.mp hmem
  exact ⟨saved, hsaved, hsame.trans hid⟩

theorem nodup_save {issuances : List Issuance} {row : Issuance} (h : Recorded c)
    (hissuances : issuances = (c.db.saveIssuance row).issuances) : (issuances.map Issuance.id).Nodup := by
  rw [hissuances, ids_saveIssuance]
  exact h.ids

theorem Recorded.recording (h : Recorded c) (hr : Recording c c') : Recorded c' := by
  cases hr with
  | @created row db reason hissuances hid hstatus hactive =>
    refine ⟨?_, ?_, ?_⟩
    · show (db.issuances.map Issuance.id).Nodup
      rw [hissuances]
      exact nodup_insertIssuance h.ids hid
    · intro entry hentry
      show ∃ issuance ∈ db.issuances, _
      rw [hissuances]
      rcases List.mem_append.mp hentry with hentry | hentry
      · obtain ⟨issuance, hmem, hof⟩ := h.owned entry hentry
        exact ⟨issuance, List.mem_append_left _ hmem, hof⟩
      · rw [List.mem_singleton.mp hentry]
        exact ⟨row, by simp, rfl⟩
    · intro entry hentry
      rcases List.mem_append.mp hentry with hentry | hentry
      · exact h.statuses entry hentry
      · rw [List.mem_singleton.mp hentry]
        exact hstatus
  | @moved issuance row db reason hmem hid hissuances hstatus hne hactive =>
    refine ⟨nodup_save h hissuances, ?_, ?_⟩
    · intro entry hentry
      refine owned_save hissuances ?_
      rcases List.mem_append.mp hentry with hentry | hentry
      · exact h.owned entry hentry
      · rw [List.mem_singleton.mp hentry]
        exact ⟨issuance, hmem, rfl⟩
    · intro entry hentry
      rcases List.mem_append.mp hentry with hentry | hentry
      · exact h.statuses entry hentry
      · rw [List.mem_singleton.mp hentry]
        exact hstatus
  | stayed hmem hid hissuances hstatus hactive =>
    exact ⟨nodup_save h hissuances, fun entry hentry => owned_save hissuances (h.owned entry hentry), h.statuses⟩
  | @removed db id hissuances =>
    refine ⟨?_, ?_, ?_⟩
    · show (db.issuances.map Issuance.id).Nodup
      rw [hissuances]
      exact h.ids.sublist (List.filter_sublist.map _)
    · intro entry hentry
      obtain ⟨hentry, hne⟩ := List.mem_filter.mp hentry
      obtain ⟨issuance, hmem, hof⟩ := h.owned entry hentry
      refine ⟨issuance, ?_, hof⟩
      show issuance ∈ db.issuances
      rw [hissuances, List.mem_filter, hof]
      exact ⟨hmem, hne⟩
    · intro entry hentry
      exact h.statuses entry (List.mem_of_mem_filter hentry)
  | kept => exact h

theorem Recorded.blanking (h : Recorded c) (hb : Blanking c c') : Recorded c' := by
  obtain ⟨hhistory, issuance, -, row, -, -, hissuances⟩ := hb
  refine ⟨nodup_save h hissuances, ?_, ?_⟩
  · rw [hhistory]
    exact fun entry hentry => owned_save hissuances (h.owned entry hentry)
  · rw [hhistory]
    exact h.statuses

/-- The entries of another issuance are the same after one more. -/
theorem entriesOf_concat_of_ne {db : Register} {entry : LifecycleEntry} {id : Nat} (hne : entry.issuanceId ≠ id) :
    Chronicle.entriesOf ⟨db, c.lifecycleHistory ++ [entry]⟩ id = c.entriesOf id := by
  unfold Chronicle.entriesOf
  rw [List.filter_append, List.filter_cons_of_neg (by simpa using hne), List.filter_nil, List.append_nil]

theorem entriesOf_concat {db : Register} (entry : LifecycleEntry) :
    Chronicle.entriesOf ⟨db, c.lifecycleHistory ++ [entry]⟩ entry.issuanceId = c.entriesOf entry.issuanceId ++ [entry] := by
  unfold Chronicle.entriesOf
  rw [List.filter_append, List.filter_cons_of_pos (by simp), List.filter_nil]

theorem Chained.recording (h : Chained c) (hc : Recorded c) (hr : Recording c c') : Chained c' := by
  cases hr with
  | @created row db reason hissuances hid hstatus hactive =>
    intro issuance hmem
    have hmem : issuance ∈ db.issuances := hmem
    rw [hissuances] at hmem
    rcases List.mem_append.mp hmem with hmem | hmem
    · have hne : row.id ≠ issuance.id := by
        rw [hid]
        exact (ne_nextId hmem).symm
      rw [entriesOf_concat_of_ne hne]
      exact h issuance hmem
    · obtain rfl := List.mem_singleton.mp hmem
      -- the new id has no entries yet
      have hnone : c.entriesOf issuance.id = [] := by
        refine List.filter_eq_nil_iff.mpr fun entry hentry => ?_
        obtain ⟨other, hother, hof⟩ := hc.owned entry hentry
        rw [decide_eq_true_eq, ← hof, hid]
        exact ne_nextId hother
      refine ⟨?_, hactive⟩
      rw [entriesOf_concat ⟨issuance.id, none, issuance.lifecycle_status, reason⟩, hnone]
      exact ⟨rfl, by simp, rfl⟩
  | @moved issuance row db reason hmem hid hissuances hstatus hne hactive =>
    intro other hother
    have hother : other ∈ db.issuances := hother
    rw [hissuances] at hother
    rcases mem_saveIssuance_iff.mp hother with ⟨rfl, -⟩ | ⟨hother, hapart⟩
    · refine ⟨?_, hactive⟩
      rw [hid, entriesOf_concat ⟨issuance.id, some issuance.lifecycle_status, other.lifecycle_status, reason⟩]
      exact (h issuance hmem).1.concat rfl (by simpa using hne)
    · rw [entriesOf_concat_of_ne (by rw [← hid]; exact hapart.symm)]
      exact h other hother
  | @stayed issuance row db hmem hid hissuances hstatus hactive =>
    intro other hother
    have hother : other ∈ db.issuances := hother
    rw [hissuances] at hother
    rcases mem_saveIssuance_iff.mp hother with ⟨rfl, -⟩ | ⟨hother, -⟩
    · refine ⟨?_, hactive (h issuance hmem).2⟩
      rw [hid, hstatus]
      exact (h issuance hmem).1
    · exact h other hother
  | @removed db id hissuances =>
    intro issuance hmem
    have hmem : issuance ∈ db.issuances := hmem
    rw [hissuances, List.mem_filter, decide_eq_true_eq] at hmem
    have hentries : Chronicle.entriesOf ⟨db, c.lifecycleHistory.filter fun entry => entry.issuanceId ≠ id⟩ issuance.id =
        c.entriesOf issuance.id := by
      unfold Chronicle.entriesOf
      rw [List.filter_filter]
      apply List.filter_congr
      intro entry _
      by_cases hof : entry.issuanceId = issuance.id
      · simp [hof, hmem.2]
      · simp [hof]
    rw [hentries]
    exact h issuance hmem.1
  | kept => exact h

/-- The entries lead to a status of the list, and the stored text is none. -/
theorem not_chained_of_blanking (h : Recorded c) (hb : Blanking c c') : ¬ Chained c' := by
  obtain ⟨hhistory, issuance, hmem, row, hid, hstatus, hissuances⟩ := hb
  intro hchained
  have hrow : row ∈ c'.db.issuances := by
    rw [hissuances]
    exact mem_saveIssuance_self hmem hid
  rcases (hchained row hrow).1.mem with hnone | ⟨entry, hentry, hto⟩
  · cases hnone
  · have hentry := List.mem_of_mem_filter hentry
    rw [hhistory] at hentry
    rw [← hto] at hstatus
    exact hstatus (h.statuses entry hentry)

theorem lifecycles_step {l : Services × LifecycleCall} (hs : lifecycles.step c l c') :
    (¬ BlanksStatus l.2 ∧ Recording c c') ∨ (BlanksStatus l.2 ∧ Blanking c c') := by
  obtain ⟨s, call⟩ := l
  cases call with
  | createIssuance dto => exact .inl ⟨id, createIssuance_records hs⟩
  | updateIssuance id dto => exact updateIssuance_records hs
  | deleteIssuance _ => exact .inl ⟨id, deleteIssuance_records hs⟩
  | decideRegisterInclusion issuanceId decision dto => exact .inl ⟨id, decideRegisterInclusion_records hs⟩

variable {history : List (Transition Chronicle (Services × LifecycleCall))}

theorem recorded_of_run (h : Run lifecycles history c) : Recorded c := by
  refine Run.always (P := fun _ => True) ?_ ?_ h fun _ _ => trivial
  · rintro c ⟨hissuances, hhistory⟩
    refine ⟨by simp [hissuances], ?_, ?_⟩ <;> simp [hhistory]
  · intro c l c' hc hs _
    rcases lifecycles_step hs with ⟨-, hr⟩ | ⟨-, hb⟩
    · exact hc.recording hr
    · exact hc.blanking hb

theorem chained_of_run (h : Run lifecycles history c) (hblank : ∀ e ∈ history, ¬ BlanksStatus e.label.2) : Chained c := by
  refine (Run.always (I := fun c => Recorded c ∧ Chained c) ?_ ?_ h hblank).2
  · rintro c ⟨hissuances, hhistory⟩
    refine ⟨⟨by simp [hissuances], ?_, ?_⟩, ?_⟩
    · simp [hhistory]
    · simp [hhistory]
    · intro issuance hmem
      rw [hissuances] at hmem
      cases hmem
  · rintro c l c' ⟨hc, hchained⟩ hs hkeeps
    rcases lifecycles_step hs with ⟨-, hr⟩ | ⟨hblanks, -⟩
    · exact ⟨hc.recording hr, hchained.recording hc hr⟩
    · exact absurd hblanks hkeeps

end

/-! ## A falsy status -/

def draftCircular : CreateIssuanceDto where
  issuance_number := some (.string "MC-4")
  lifecycle_status := some (.string "draft")

/-- A draft, created and then made active. -/
def drafted : Chronicle := leaves (Chronicle.createIssuance desk draftCircular) {}

def activation : IssuanceDto where
  lifecycle_status := some (.string "active")
  status_reason := some (.string "Signed")

theorem run_drafted : Run lifecycles [⟨{}, (desk, .createIssuance draftCircular), drafted⟩] drafted :=
  (Run.init (S := lifecycles) (a := {}) ⟨rfl, rfl⟩).step (returns_of_returned (by decide +kernel))

end ComplianceHub.References
