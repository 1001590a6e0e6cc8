import ComplianceHub.References.Completed

/-!
# Amendments

* `addRelationship`, `removeRelationship`, `updateIssuanceBody` : the operations on relationships, and an update whose
  body has a number;
* `Mirrors`, `Mirrored` : the amendment columns of an issuance say what its relationship does;
* `Related` : the keys of the tables, and the ends of every relationship;
* `KeepsMirror` : no issuance that another one amends gets another number, and an amendment is stored as it is looked up;
* `amendments_are_mirrored_iff` : the runs in which the columns mirror the relationships.
-/

namespace ComplianceHub.References

open ComplianceHub.Lib

/-! ## Operations -/

def RELATIONSHIP_TYPES : List String :=
  ["implements", "amends", "supersedes", "repeals", "supplements", "clarifies", "pursuant_to", "related_to"]

structure RelationshipDto where
  targetIssuanceId : Nat
  relationshipType : Option Json := none

/-- The amendments of an issuance. -/
def Register.amendmentsOf (db : Register) (id : Nat) : List IssuanceRelationship :=
  db.relationships.filter fun item => item.sourceIssuanceId = id ∧ item.relationshipType = "amends"

/-- The relationship that a new one repeats. A type that is no text finds any. -/
def Register.existingRelationship (db : Register) (issuanceId : Nat) (dto : RelationshipDto) : Option IssuanceRelationship :=
  db.relationships.find? fun item =>
    decide (item.sourceIssuanceId = issuanceId ∧ item.targetIssuanceId = dto.targetIssuanceId) &&
      match dto.relationshipType with
      | some (.string text) => item.relationshipType = text
      | _ => true

/-- The row of a new relationship, with its target. -/
def relatable (s : Services) (db : Register) (issuanceId : Nat) (dto : RelationshipDto) :
    Except HttpException (IssuanceRelationship × Issuance) := do
  check (issuanceId ≠ dto.targetIssuanceId) (.badRequest "An issuance cannot be related to itself")
  assertAllowed dto.relationshipType RELATIONSHIP_TYPES "Relationship Type"
  let _ ← db.findIssuance issuanceId
  let target ← db.findIssuance dto.targetIssuanceId
  check (¬ (isText "amends" dto.relationshipType = true ∧
      (db.amendmentsOf issuanceId).any (fun item => item.targetIssuanceId ≠ dto.targetIssuanceId) = true))
    (.conflict "This issuance already amends another record. Update its amendment details instead.")
  check ((db.existingRelationship issuanceId dto).isNone = true) (.conflict "This relationship already exists")
  let relationshipType ← requiredText s (dto.relationshipType.getD .null)
  pure (⟨issuanceId, dto.targetIssuanceId, relationshipType⟩, target)

/-- The amendment columns of an issuance are written. -/
def Register.writeAmendment (db : Register) (id : Nat) (is_amendment : Bool) (amended_issuance_number : Option String) :
    Register :=
  { db with issuances := db.issuances.map fun row =>
      if row.id = id then { row with is_amendment, amended_issuance_number } else row }

def addRelationship (s : Services) (issuanceId : Nat) (dto : RelationshipDto) : RegisterM Unit := do
  let (relationship, target) ← reads fun db => relatable s db issuanceId dto
  modify fun db =>
    let saved := { db with relationships := db.relationships ++ [relationship] }
    if isText "amends" dto.relationshipType then saved.writeAmendment issuanceId true (some target.issuance_number)
    else saved

/-- The relationship stands for its id. -/
def removeRelationship (issuanceId : Nat) (relationship : IssuanceRelationship) : RegisterM Unit := do
  let _ ← reads fun db =>
    check (relationship ∈ db.relationships ∧ relationship.sourceIssuanceId = issuanceId)
      (.notFound "Issuance relationship not found")
  modify fun db =>
    let removed := { db with relationships := db.relationships.erase relationship }
    if relationship.relationshipType = "amends" then removed.writeAmendment issuanceId false none else removed

/-- The row that an update leaves where its body has a number: no other issuance may have it. -/
def bodyRow (s : Services) (db : Register) (id : Nat) (body : CreateIssuanceDto) : Except HttpException (Issuance × Catalog) := do
  let (row, catalog) ← updatedRow s db id body.toIssuanceDto
  match body.issuance_number with
  | none => pure (row, catalog)
  | some value => do
    let issuance_number ← requiredText s value
    check (∀ other ∈ db.issuances, other.issuance_number = issuance_number → other.id = id) internalError
    pure ({ row with issuance_number }, catalog)

/-- `updateIssuance`, which assigns what the body has. -/
def updateIssuanceBody (s : Services) (id : Nat) (body : CreateIssuanceDto) : RegisterM Unit := do
  let (row, catalog) ← reads fun db => bodyRow s db id body
  modify fun db => db.saveIssuance row
  syncLegacyAmendmentRelationship id catalog
  syncPrimaryUrlSource s id catalog

/-- Without a number in the body it is the update of the catalogue. -/
theorem updateIssuanceBody_eq (s : Services) (id : Nat) (dto : IssuanceDto) :
    updateIssuanceBody s id { dto with issuance_number := none } = updateIssuance s id dto := by
  have hrow (db : Register) : bodyRow s db id { dto with issuance_number := none } = updatedRow s db id dto := by
    show (updatedRow s db id dto >>= fun r => pure (r.1, r.2)) = _
    cases updatedRow s db id dto <;> rfl
  unfold updateIssuanceBody updateIssuance
  simp only [hrow]

inductive AmendmentCall where
  | createIssuance (dto : CreateIssuanceDto)
  | updateIssuance (id : Nat) (body : CreateIssuanceDto)
  | deleteIssuance (id : Nat)
  | addRelationship (issuanceId : Nat) (dto : RelationshipDto)
  | removeRelationship (issuanceId : Nat) (relationship : IssuanceRelationship)

def AmendmentCall.run (s : Services) : AmendmentCall → RegisterM Unit
  | createIssuance dto => References.createIssuance s dto
  | updateIssuance id body => updateIssuanceBody s id body
  | deleteIssuance id => References.deleteIssuance id
  | addRelationship issuanceId dto => References.addRelationship s issuanceId dto
  | removeRelationship issuanceId relationship => References.removeRelationship issuanceId relationship

/-- Completed calls one after the other, from a register without issuances. -/
def amending : System Register (Services × AmendmentCall) where
  init db := db.issuances = [] ∧ db.relationships = []
  step db l db' := l.2.run l.1 db = .ok () db'

/-! ## The property -/

/-- The columns of an issuance say what it amends. -/
structure Mirrors (db : Register) (issuance : Issuance) : Prop where
  one : (db.amendmentsOf issuance.id).length ≤ 1
  flag : issuance.is_amendment = true ↔ db.amendmentsOf issuance.id ≠ []
  target : ∀ item ∈ db.amendmentsOf issuance.id, ∃ target ∈ db.issuances,
    target.id = item.targetIssuanceId ∧ target.id ≠ issuance.id ∧
      issuance.amended_issuance_number = some target.issuance_number

def Mirrored (db : Register) : Prop := ∀ issuance ∈ db.issuances, Mirrors db issuance

/-- An amendment is given as `true`, with a number as it is looked up. -/
def FitsTarget (is_amendment amended_issuance_number : Json) : Prop :=
  is_amendment.truthy = true →
    is_amendment = .bool true ∧ ∃ text, amended_issuance_number = .string text ∧ trim text = text

/-- What an update gives as `is_amendment` and `amended_issuance_number`. -/
def Register.givenAmendment (db : Register) (id : Nat) (dto : IssuanceDto) : Json × Json :=
  (dto.is_amendment.getD (.bool ((db.issuance? id).any Issuance.is_amendment)),
    dto.amended_issuance_number.getD (nullable ((db.issuance? id).bind Issuance.amended_issuance_number)))

/-- A number that the body has is the stored one, or the issuance is amended by none. -/
def KeepsNumber (s : Services) (db : Register) (id : Nat) (issuance_number : Option Json) : Prop :=
  (∀ value, issuance_number = some value →
    ∃ text, requiredText s value = .ok text ∧ (db.issuance? id).map Issuance.issuance_number = some text) ∨
    ∀ item ∈ db.relationships, item.relationshipType = "amends" → item.targetIssuanceId ≠ id

def KeepsMirror (db : Register) : Services × AmendmentCall → Prop
  | (_, .createIssuance dto) =>
    FitsTarget (dto.is_amendment.getD (.bool false)) (dto.amended_issuance_number.getD .null)
  | (s, .updateIssuance id body) =>
    FitsTarget (db.givenAmendment id body.toIssuanceDto).1 (db.givenAmendment id body.toIssuanceDto).2 ∧
      KeepsNumber s db id body.issuance_number
  | _ => True

/-! ## Rows -/

structure Related (db : Register) : Prop where
  ids : (db.issuances.map Issuance.id).Nodup
  numbers : (db.issuances.map Issuance.issuance_number).Nodup
  sources : ∀ item ∈ db.relationships, item.sourceIssuanceId ∈ db.issuances.map Issuance.id
  targets : ∀ item ∈ db.relationships, item.targetIssuanceId ∈ db.issuances.map Issuance.id

variable {s : Services} {db db' : Register} {id : Nat} {issuance row : Issuance} {item : IssuanceRelationship}

theorem mem_amendmentsOf : item ∈ db.amendmentsOf id ↔
    item ∈ db.relationships ∧ item.sourceIssuanceId = id ∧ item.relationshipType = "amends" := by
  rw [Register.amendmentsOf, List.mem_filter, decide_eq_true_eq]

/-- The amendments of an issuance stay, and the numbers of their targets. -/
theorem Mirrors.stay (h : Mirrors db issuance) (hsame : db'.amendmentsOf issuance.id = db.amendmentsOf issuance.id)
    (htargets : ∀ item ∈ db.amendmentsOf issuance.id, ∀ target ∈ db.issuances, target.id = item.targetIssuanceId →
      ∃ target' ∈ db'.issuances, target'.id = target.id ∧ target'.issuance_number = target.issuance_number) :
    Mirrors db' issuance where
  one := by
    rw [hsame]
    exact h.one
  flag := by
    rw [hsame]
    exact h.flag
  target item hitem := by
    rw [hsame] at hitem
    obtain ⟨target, hmem, hid, hapart, hamended⟩ := h.target item hitem
    obtain ⟨target', hmem', hid', hnumber⟩ := htargets item hitem target hmem hid
    refine ⟨target', hmem', hid'.trans hid, ?_, ?_⟩
    · rw [hid']
      exact hapart
    · rw [hnumber]
      exact hamended

/-- An issuance is written, and the amendments of no other one. -/
theorem mirrored_iff_of_saved (h : Mirrored db) (hr : Related db) (hmem : issuance ∈ db.issuances) (row : Issuance)
    (hid : row.id = issuance.id) (hissuances : db'.issuances = (db.saveIssuance row).issuances)
    (hapart : ∀ other, other ≠ issuance.id → db'.amendmentsOf other = db.amendmentsOf other) :
    Mirrored db' ↔ Mirrors db' row ∧ (row.issuance_number = issuance.issuance_number ∨
      ∀ item ∈ db.relationships, item.relationshipType = "amends" → item.targetIssuanceId ≠ issuance.id) := by
  have hids : (db'.issuances.map Issuance.id).Nodup := by
    rw [hissuances, ids_saveIssuance]
    exact hr.ids
  have hrow : row ∈ db'.issuances := by
    rw [hissuances]
    exact mem_saveIssuance_self hmem hid
  constructor
  · intro hmirrored
    refine ⟨hmirrored row hrow, ?_⟩
    by_contra hrenumbered
    push Not at hrenumbered
    obtain ⟨hnumber, item, hitem, htype, htarget⟩ := hrenumbered
    obtain ⟨other, hother, hsource⟩ := List.mem_map.mp (hr.sources item hitem)
    have hof : item ∈ db.amendmentsOf other.id := mem_amendmentsOf.mpr ⟨hitem, hsource.symm, htype⟩
    obtain ⟨target, htargetmem, hsame, hne, hamended⟩ := (h other hother).target item hof
    obtain rfl := List.inj_on_of_nodup_map hr.ids htargetmem hmem (hsame.trans htarget)
    -- the columns of the issuance that amends it have not changed
    have hother' : other ∈ db'.issuances := by
      rw [hissuances]
      exact mem_saveIssuance_iff.mpr (.inr ⟨hother, by rw [hid]; exact hne.symm⟩)
    have hof' : item ∈ db'.amendmentsOf other.id := by
      rw [hapart other.id hne.symm]
      exact hof
    obtain ⟨target', htargetmem', hsame', -, hamended'⟩ := (hmirrored other hother').target item hof'
    obtain rfl := List.inj_on_of_nodup_map hids htargetmem' hrow (hsame'.trans (htarget.trans hid.symm))
    exact hnumber (Option.some.inj (hamended'.symm.trans hamended))
  · rintro ⟨hown, hkept⟩ other hother
    rw [hissuances] at hother
    rcases mem_saveIssuance_iff.mp hother with ⟨rfl, -⟩ | ⟨hother, hne⟩
    · exact hown
    · rw [hid] at hne
      refine (h other hother).stay (hapart other.id hne) fun item hitem target htarget hsame => ?_
      by_cases htargetid : target.id = issuance.id
      · obtain rfl := List.inj_on_of_nodup_map hr.ids htarget hmem htargetid
        rcases hkept with hnumber | hnone
        · exact ⟨row, hrow, hid, hnumber⟩
        · obtain ⟨hrelated, -, htype⟩ := mem_amendmentsOf.mp hitem
          exact absurd hsame.symm (hnone item hrelated htype)
      · refine ⟨target, ?_, rfl, rfl⟩
        rw [hissuances]
        exact mem_saveIssuance_iff.mpr (.inr ⟨htarget, by rw [hid]; exact htargetid⟩)

/-! ## Amendments after a write -/

theorem relate_apart (amended : Option String) {other : Nat} (hne : other ≠ id) :
    (db.relate id amended).amendmentsOf other = db.amendmentsOf other := by
  unfold Register.amendmentsOf Register.relate syncedRelationships
  have hfilter (p : IssuanceRelationship → Bool)
      (hp : ∀ item : IssuanceRelationship, item.sourceIssuanceId = other → p item = true) :
      (db.relationships.filter p).filter (fun item => item.sourceIssuanceId = other ∧ item.relationshipType = "amends") =
        db.relationships.filter fun item => item.sourceIssuanceId = other ∧ item.relationshipType = "amends" := by
    rw [List.filter_filter]
    apply List.filter_congr
    intro item _
    by_cases hof : item.sourceIssuanceId = other
    · simp [hof, hp item hof]
    · simp [hof]
  dsimp only
  split
  · exact hfilter _ fun item hof => by simp [hof, hne]
  · split
    · rfl
    · split_ifs
      · rfl
      · exact hfilter _ fun item hof => by simp [hof, hne]
      · rw [List.filter_append, hfilter _ fun item hof => by simp [hof, hne]]
        simp [hne.symm]

theorem relate_none (id : Nat) : (db.relate id none).amendmentsOf id = [] := by
  refine List.filter_eq_nil_iff.mpr fun item hitem hof => ?_
  have hother : (!decide (item.sourceIssuanceId = id ∧ item.relationshipType = "amends")) = true :=
    (List.mem_filter.mp hitem).2
  rw [hof] at hother
  cases hother

theorem mem_of_numbered {number : String} (h : db.numbered number = some issuance) :
    issuance ∈ db.issuances ∧ issuance.issuance_number = number := by
  have hnumber := List.find?_some (p := fun row : Issuance => decide (row.issuance_number = number)) h
  exact ⟨List.mem_of_find?_eq_some h, of_decide_eq_true hnumber⟩

/-- A row that is added where there is none yet. -/
theorem filter_kept_or_new {α : Type} {kept : List α} {p : α → Bool} {new : α} (hnew : p new = true)
    (h : kept.filter p = [] ∨ kept.filter p = [new]) : (if kept.any p then kept else kept ++ [new]).filter p = [new] := by
  rcases h with hnone | hsome
  · have hany : kept.any p = false := List.any_eq_false.mpr (List.filter_eq_nil_iff.mp hnone)
    rw [hany, if_neg Bool.false_ne_true, List.filter_append, hnone]
    simp [hnew]
  · have hany : kept.any p = true := by
      have hmem : new ∈ kept.filter p := by
        rw [hsome]
        exact List.mem_singleton_self new
      exact List.any_eq_true.mpr ⟨new, List.mem_filter.mp hmem⟩
    rw [if_pos hany]
    exact hsome

/-- The amendment that is left is the one to the target. -/
theorem relate_some {number : String} {target : Issuance} (hone : (db.amendmentsOf id).length ≤ 1)
    (hnumbered : db.numbered number = some target) (hne : target.id ≠ id) :
    (db.relate id (some number)).amendmentsOf id = [⟨id, target.id, "amends"⟩] := by
  have hkept : (db.relationships.filter fun item => !(decide (item.sourceIssuanceId = id ∧ item.relationshipType = "amends") &&
      decide (item.targetIssuanceId ≠ target.id))).filter
        (fun item => item.sourceIssuanceId = id ∧ item.relationshipType = "amends") =
      (db.amendmentsOf id).filter fun item => item.targetIssuanceId = target.id := by
    unfold Register.amendmentsOf
    rw [List.filter_filter, List.filter_filter]
    apply List.filter_congr
    intro item _
    by_cases hof : item.sourceIssuanceId = id ∧ item.relationshipType = "amends"
    · simp [hof]
    · simp [hof]
  -- what is kept of the one amendment that there may be
  have hcases : (db.amendmentsOf id).filter (fun item => item.targetIssuanceId = target.id) = [] ∨
      (db.amendmentsOf id).filter (fun item => item.targetIssuanceId = target.id) = [⟨id, target.id, "amends"⟩] := by
    match hlist : db.amendmentsOf id, hone with
    | [], _ => exact .inl rfl
    | [item], _ =>
      obtain ⟨-, hsource, htype⟩ := mem_amendmentsOf.mp (hlist ▸ List.mem_singleton_self item)
      by_cases htarget : item.targetIssuanceId = target.id
      · refine .inr ?_
        rw [List.filter_cons_of_pos (by simpa using htarget), List.filter_nil, ← hsource, ← htarget, ← htype]
      · exact .inl (by rw [List.filter_cons_of_neg (by simpa using htarget), List.filter_nil])
  unfold Register.amendmentsOf Register.relate syncedRelationships
  dsimp only
  rw [hnumbered]
  dsimp only
  rw [if_neg hne]
  rw [← hkept] at hcases
  exact filter_kept_or_new (by simp) hcases

theorem Related.relate (h : Related db) (hid : id ∈ db.issuances.map Issuance.id) (amended : Option String) :
    Related (db.relate id amended) := by
  have hends : ∀ item ∈ (db.relate id amended).relationships, item ∈ db.relationships ∨
      (item.sourceIssuanceId = id ∧ item.targetIssuanceId ∈ db.issuances.map Issuance.id) := by
    intro item hitem
    unfold Register.relate syncedRelationships at hitem
    dsimp only at hitem
    split at hitem
    · exact .inl (List.mem_of_mem_filter hitem)
    · split at hitem
      · exact .inl hitem
      · rename_i target hnumbered
        split_ifs at hitem
        · exact .inl hitem
        · exact .inl (List.mem_of_mem_filter hitem)
        · rcases List.mem_append.mp hitem with hitem | hitem
          · exact .inl (List.mem_of_mem_filter hitem)
          · rw [List.mem_singleton.mp hitem]
            exact .inr ⟨rfl, List.mem_map_of_mem (mem_of_numbered hnumbered).1⟩
  refine ⟨h.ids, h.numbers, fun item hitem => ?_, fun item hitem => ?_⟩
  · rcases hends item hitem with hold | ⟨hsource, -⟩
    · exact h.sources item hold
    · rw [hsource]
      exact hid
  · rcases hends item hitem with hold | ⟨-, htarget⟩
    · exact h.targets item hold
    · exact htarget

/-! ## Amendments that a body gives -/

theorem assertAmendmentTarget_eq_ok {issuanceId : Option Nat} {is_amendment amended : Json} {u : Unit}
    (h : assertAmendmentTarget db issuanceId is_amendment amended = .ok u) (htruthy : is_amendment.truthy = true) :
    ∃ number target, trimmed (some amended) = .ok (some number) ∧ db.numbered number = some target ∧
      some target.id ≠ issuanceId := by
  unfold assertAmendmentTarget at h
  rw [if_pos htruthy] at h
  obtain ⟨number, htrim, h⟩ := bind_eq_ok.mp h
  split at h
  · cases h
  · rename_i number
    split at h
    · cases h
    · rename_i target hnumbered
      exact ⟨number, target, htrim, hnumbered, check_eq_ok.mp h⟩

theorem columnBool_of_not_truthy {value : Json} {b : Bool} (h : columnBool value = .ok b) (htruthy : value.truthy = false) :
    b = false := by
  cases value with
  | null => cases h
  | bool value =>
    cases h
    exact htruthy
  | number n =>
    cases h
    rfl
  | string text =>
    cases h
    rfl
  | array items =>
    cases h
    rfl
  | object fields =>
    cases h
    rfl

theorem columnBool_eq_true {value : Json} {b : Bool} (h : columnBool value = .ok b) : b = true ↔ value = .bool true := by
  cases value with
  | null => cases h
  | bool value =>
    cases h
    simp
  | number n =>
    cases h
    simp
  | string text =>
    cases h
    simp
  | array items =>
    cases h
    simp
  | object fields =>
    cases h
    simp

/-- The columns of a row say what it amends exactly if the amendment is given as it is stored. -/
theorem mirrors_relate_iff (hr : Related db) {is_amendment amended_issuance_number : Json} {amended : Option String}
    (hflag : columnBool is_amendment = .ok row.is_amendment)
    (hnumber : columnText s amended_issuance_number = .ok row.amended_issuance_number)
    (hone : (db.amendmentsOf row.id).length ≤ 1)
    (htarget : is_amendment.truthy = true → ∃ number target, trimmed (some amended_issuance_number) = .ok (some number) ∧
      db.numbered number = some target ∧ target.id ≠ row.id)
    (hamended : (if is_amendment.truthy then trimmed (some amended_issuance_number) else .ok none) = .ok amended) :
    Mirrors (db.relate row.id amended) row ↔ FitsTarget is_amendment amended_issuance_number := by
  unfold FitsTarget
  cases htruthy : is_amendment.truthy with
  | false =>
    rw [htruthy, if_neg Bool.false_ne_true] at hamended
    cases hamended
    have hnone : (db.relate row.id none).amendmentsOf row.id = [] := relate_none row.id
    have hmirrors : Mirrors (db.relate row.id none) row := by
      refine ⟨by simp [hnone], ?_, ?_⟩
      · rw [columnBool_of_not_truthy hflag htruthy, hnone]
        simp
      · rw [hnone]
        simp
    simp [hmirrors]
  | true =>
    obtain ⟨number, target, htrim, hnumbered, hne⟩ := htarget htruthy
    rw [htruthy, if_pos rfl, htrim] at hamended
    cases hamended
    obtain ⟨text, rfl, rfl⟩ := trimmed_eq_some htrim
    have hstored : row.amended_issuance_number = some text := (Except.ok.inj hnumber).symm
    obtain ⟨hmem, hsame⟩ := mem_of_numbered hnumbered
    have hamendments := relate_some hone hnumbered hne
    constructor
    · intro hmirrors _
      refine ⟨(columnBool_eq_true hflag).mp (hmirrors.flag.mpr ?_), text, rfl, ?_⟩
      · rw [hamendments]
        exact List.cons_ne_nil _ _
      · obtain ⟨other, hother, hid, -, hnamed⟩ := hmirrors.target ⟨row.id, target.id, "amends"⟩ (by rw [hamendments]; simp)
        obtain rfl := List.inj_on_of_nodup_map hr.ids hother hmem hid
        exact hsame.symm.trans (Option.some.inj (hnamed.symm.trans hstored))
    · intro hfits
      obtain ⟨hgiven, other, hother, htrimmed⟩ := hfits rfl
      obtain rfl := Json.string.inj hother
      refine ⟨by simp [hamendments], ?_, ?_⟩
      · rw [(columnBool_eq_true hflag).mpr hgiven, hamendments]
        simp
      · rw [hamendments]
        intro item hitem
        rw [List.mem_singleton.mp hitem]
        refine ⟨target, hmem, rfl, hne, ?_⟩
        rw [hstored, hsame, htrimmed]

/-! ## Creation and update -/

@[simp] theorem syncedSources_relationships (id : Nat) (url : Option String) :
    (syncedSources s id url db).relationships = db.relationships := by
  unfold syncedSources
  cases url with
  | none =>
    dsimp only
    split <;> rfl
  | some url =>
    dsimp only
    split <;> rfl

/-- Neither the other tables nor the other columns are part of the property. -/
theorem mirrored_of_same (hissuances : db'.issuances = db.issuances) (hrelationships : db'.relationships = db.relationships) :
    (Related db' ↔ Related db) ∧ (Mirrored db' ↔ Mirrored db) := by
  have hamendments (id : Nat) : db'.amendmentsOf id = db.amendmentsOf id := by
    unfold Register.amendmentsOf
    rw [hrelationships]
  constructor
  · constructor
    · rintro ⟨hids, hnumbers, hsources, htargets⟩
      rw [hissuances] at hids hnumbers hsources htargets
      rw [hrelationships] at hsources htargets
      exact ⟨hids, hnumbers, hsources, htargets⟩
    · rintro ⟨hids, hnumbers, hsources, htargets⟩
      rw [← hissuances] at hids hnumbers hsources htargets
      rw [← hrelationships] at hsources htargets
      exact ⟨hids, hnumbers, hsources, htargets⟩
  · have hmirrors (issuance : Issuance) : Mirrors db' issuance ↔ Mirrors db issuance := by
      constructor
      · rintro ⟨hone, hflag, htarget⟩
        rw [hamendments] at hone hflag htarget
        rw [hissuances] at htarget
        exact ⟨hone, hflag, htarget⟩
      · rintro ⟨hone, hflag, htarget⟩
        rw [← hamendments] at hone hflag htarget
        rw [← hissuances] at htarget
        exact ⟨hone, hflag, htarget⟩
    unfold Mirrored
    rw [hissuances]
    simp [hmirrors]

theorem mirrored_syncedSources (s : Services) (db : Register) (id : Nat) (url : Option String) :
    (Related (syncedSources s id url db) ↔ Related db) ∧ (Mirrored (syncedSources s id url db) ↔ Mirrored db) :=
  mirrored_of_same (syncedSources_issuances id url) (syncedSources_relationships id url)

theorem requiredText_eq_ok_iff {value : Json} {text : String} :
    requiredText s value = .ok text ↔ columnText s value = .ok (some text) := by
  unfold requiredText
  split
  · rename_i other hcolumn
    rw [hcolumn]
    simp
  · rename_i hnone
    constructor
    · intro h
      cases h
    · intro hcolumn
      exact absurd hcolumn (hnone text)

/-- A new number is one that no issuance has. -/
theorem number_of_existingIssuance {value : Json} {number : String} {existing : Option Issuance}
    (h : existingIssuance s db value = .ok existing) (hnone : existing.isNone = true)
    (hnumber : requiredText s value = .ok number) : ∀ other ∈ db.issuances, other.issuance_number ≠ number := by
  unfold existingIssuance at h
  rw [requiredText_eq_ok_iff.mp hnumber] at h
  cases h
  rw [Option.isNone_iff_eq_none, Register.numbered, List.find?_eq_none] at hnone
  intro other hother hsame
  exact hnone other hother (decide_eq_true hsame)

theorem createdRow_amendment {dto : CreateIssuanceDto} {catalog : Catalog} (h : createdRow s db dto = .ok (row, catalog)) :
    row.id = nextId (db.issuances.map Issuance.id) ∧
      (∀ other ∈ db.issuances, other.issuance_number ≠ row.issuance_number) ∧
      catalog.is_amendment = dto.is_amendment.getD (.bool false) ∧
      catalog.amended_issuance_number = dto.amended_issuance_number.getD .null ∧
      columnBool catalog.is_amendment = .ok row.is_amendment ∧
      columnText s catalog.amended_issuance_number = .ok row.amended_issuance_number ∧
      ∃ u, assertAmendmentTarget db none catalog.is_amendment catalog.amended_issuance_number = .ok u := by
  simp only [createdRow, createdCatalog, bind_eq_ok, check_eq_ok] at h
  obtain ⟨catalog', ⟨_, -, domains, -, u, htarget, _, -, hcatalog⟩, existing, hexisting, _, hnone, number, hnumber, row',
    hrow, h⟩ := h
  cases h
  cases hcatalog
  simp only [Catalog.columns, bind_eq_ok] at hrow
  obtain ⟨_, -, _, -, _, -, _, -, flag, hflag, amended, hamended, url, hurl, hrow⟩ := hrow
  cases hrow
  exact ⟨rfl, number_of_existingIssuance hexisting hnone hnumber, rfl, rfl, hflag, hamended, u, htarget⟩

theorem updatedRow_amendment {dto : IssuanceDto} {catalog : Catalog} (h : updatedRow s db id dto = .ok (row, catalog)) :
    ∃ issuance, db.findIssuance id = .ok issuance ∧ row.id = issuance.id ∧ row.issuance_number = issuance.issuance_number ∧
      catalog.is_amendment = dto.is_amendment.getD (.bool issuance.is_amendment) ∧
      catalog.amended_issuance_number = dto.amended_issuance_number.getD (nullable issuance.amended_issuance_number) ∧
      columnBool catalog.is_amendment = .ok row.is_amendment ∧
      columnText s catalog.amended_issuance_number = .ok row.amended_issuance_number ∧
      ∃ u, assertAmendmentTarget db (some issuance.id) catalog.is_amendment catalog.amended_issuance_number = .ok u := by
  simp only [updatedRow, updatedCatalog, bind_eq_ok] at h
  obtain ⟨_, -, issuance, hfound, catalog', ⟨_, -, domains, -, u, htarget, _, -, hcatalog⟩, row', hrow, h⟩ := h
  cases h
  cases hcatalog
  simp only [Catalog.columns, bind_eq_ok] at hrow
  obtain ⟨_, -, _, -, _, -, _, -, flag, hflag, amended, hamended, url, hurl, hrow⟩ := hrow
  cases hrow
  exact ⟨issuance, hfound, rfl, rfl, rfl, rfl, hflag, hamended, u, htarget⟩

theorem updateIssuanceBody_returns {body : CreateIssuanceDto} (h : updateIssuanceBody s id body db = .ok () db') :
    ∃ row catalog amended url, bodyRow s db id body = .ok (row, catalog) ∧ amendedNumber catalog = .ok amended ∧
      db' = syncedSources s id url ((db.saveIssuance row).relate id amended) := by
  unfold updateIssuanceBody syncLegacyAmendmentRelationship syncPrimaryUrlSource at h
  simp only [returns_bind, returns_reads, returns_modify] at h
  obtain ⟨⟨row, catalog⟩, _, ⟨hrow, rfl⟩, _, _, rfl, _, _, ⟨amended, _, ⟨hamended, rfl⟩, rfl⟩, url, _, ⟨-, rfl⟩, rfl⟩ := h
  exact ⟨row, catalog, amended, url, hrow, hamended, rfl⟩

/-- A row with the number of a body, which is no other issuance's. -/
theorem bodyRow_amendment {body : CreateIssuanceDto} {catalog : Catalog} (hr : Related db)
    (h : bodyRow s db id body = .ok (row, catalog)) : ∃ updated, updatedRow s db id body.toIssuanceDto = .ok (updated, catalog) ∧
      row = { updated with issuance_number := row.issuance_number } ∧
      (∀ value, body.issuance_number = some value → requiredText s value = .ok row.issuance_number) ∧
      (body.issuance_number = none → row.issuance_number = updated.issuance_number) ∧
      ∀ other ∈ db.issuances, other.issuance_number = row.issuance_number → other.id = id := by
  unfold bodyRow at h
  obtain ⟨⟨updated, given⟩, hupdated, h⟩ := bind_eq_ok.mp h
  dsimp only at h
  split at h
  · rename_i hnone
    cases h
    refine ⟨row, hupdated, rfl, ?_, fun _ => rfl, ?_⟩
    · intro value hvalue
      rw [hnone] at hvalue
      cases hvalue
    · intro other hother hnumber
      obtain ⟨issuance, hfound, -, hsame, -⟩ := updatedRow_amendment hupdated
      obtain ⟨hmem, rfl⟩ := findIssuance_eq_ok hfound
      rw [List.inj_on_of_nodup_map hr.numbers hother hmem (hnumber.trans hsame)]
  · rename_i value hvalue
    simp only [bind_eq_ok, check_eq_ok] at h
    obtain ⟨number, hnumber, _, hfree, h⟩ := h
    cases h
    refine ⟨updated, hupdated, rfl, ?_, ?_, hfree⟩
    · intro other hother
      rw [hvalue] at hother
      cases hother
      exact hnumber
    · intro hnone
      rw [hvalue] at hnone
      cases hnone

/-! ## What a completed call leaves -/

theorem Related.insertIssuance (h : Related db) (hid : row.id = nextId (db.issuances.map Issuance.id))
    (hfree : ∀ other ∈ db.issuances, other.issuance_number ≠ row.issuance_number) : Related (db.insertIssuance row) where
  ids := nodup_insertIssuance h.ids hid
  numbers := nodup_column_concat h.numbers hfree
  sources item hitem := by
    show item.sourceIssuanceId ∈ (db.issuances ++ [row]).map Issuance.id
    rw [List.map_append]
    exact List.mem_append_left _ (h.sources item hitem)
  targets item hitem := by
    show item.targetIssuanceId ∈ (db.issuances ++ [row]).map Issuance.id
    rw [List.map_append]
    exact List.mem_append_left _ (h.targets item hitem)

theorem createIssuance_mirrored {dto : CreateIssuanceDto} (hr : Related db) (hcall : createIssuance s dto db = .ok () db') :
    Related db' ∧ (Mirrored db → (Mirrored db' ↔ KeepsMirror db (s, .createIssuance dto))) := by
  obtain ⟨row, catalog, amended, url, reason, hrow, hamended, -, -, rfl⟩ := createIssuance_returns hcall
  obtain ⟨hid, hfree, hgiven, hnumber, hflag, hcolumn, u, htarget⟩ := createdRow_amendment hrow
  have hinserted := hr.insertIssuance hid hfree
  have hmem : row ∈ (db.insertIssuance row).issuances := List.mem_append_right _ (List.mem_singleton_self _)
  have hlisted : row.id ∈ (db.insertIssuance row).issuances.map Issuance.id := List.mem_map_of_mem hmem
  have hrelated := hinserted.relate hlisted amended
  obtain ⟨hsame, hmirrored⟩ := mirrored_syncedSources s ((db.insertIssuance row).relate row.id amended) row.id url
  refine ⟨hsame.mpr hrelated, fun h => hmirrored.trans ?_⟩
  -- the new issuance has no relationships yet
  have hnone : (db.insertIssuance row).amendmentsOf row.id = [] := by
    refine List.filter_eq_nil_iff.mpr fun item hitem hof => ?_
    obtain ⟨other, hother, hsource⟩ := List.mem_map.mp (hr.sources item hitem)
    have hof : item.sourceIssuanceId = row.id := (of_decide_eq_true hof).1
    exact ne_nextId hother (hsource.trans (hof.trans hid))
  have hown := mirrors_relate_iff hinserted hflag hcolumn (by simp [hnone]) (fun htruthy => ?_) hamended
  · show _ ↔ FitsTarget _ _
    rw [← hgiven, ← hnumber, ← hown]
    constructor
    · exact fun hall => hall row hmem
    · intro hnew other hother
      rcases List.mem_append.mp hother with hother | hother
      · refine (h other hother).stay (relate_apart amended ?_) fun item _ target htarget _ => ?_
        · rw [hid]
          exact ne_nextId hother
        · exact ⟨target, List.mem_append_left _ htarget, rfl, rfl⟩
      · rw [List.mem_singleton.mp hother]
        exact hnew
  · obtain ⟨number, target, htrim, hnumbered, -⟩ := assertAmendmentTarget_eq_ok htarget htruthy
    obtain ⟨htargetmem, -⟩ := mem_of_numbered hnumbered
    refine ⟨number, target, htrim, ?_, ?_⟩
    · show (db.issuances ++ [row]).find? _ = some target
      rw [List.find?_append, show db.issuances.find? _ = some target from hnumbered]
      rfl
    · rw [hid]
      exact ne_nextId htargetmem

theorem issuance?_of_findIssuance (h : db.findIssuance id = .ok issuance) : db.issuance? id = some issuance := by
  unfold Register.findIssuance at h
  split at h
  · rename_i found hfound
    rw [hfound, Except.ok.inj h]
  · cases h

/-- A row is written whose number no other one has. -/
theorem Related.saveIssuance (h : Related db) (hid : row.id = issuance.id)
    (hfree : ∀ other ∈ db.issuances, other.issuance_number = row.issuance_number → other.id = issuance.id) :
    Related (db.saveIssuance row) where
  ids := by
    rw [ids_saveIssuance]
    exact h.ids
  numbers := by
    show ((db.issuances.map fun other => if other.id = row.id then row else other).map Issuance.issuance_number).Nodup
    rw [List.map_map]
    refine List.Nodup.map_on ?_ (List.Nodup.of_map _ h.ids)
    intro first hfirst second hsecond hsame
    have hsame : (if first.id = row.id then row else first).issuance_number =
        (if second.id = row.id then row else second).issuance_number := hsame
    split_ifs at hsame with hone htwo htwo
    · exact List.inj_on_of_nodup_map h.ids hfirst hsecond (hone.trans htwo.symm)
    · exact absurd ((hfree second hsecond hsame.symm).trans hid.symm) htwo
    · exact absurd ((hfree first hfirst hsame).trans hid.symm) hone
    · exact List.inj_on_of_nodup_map h.numbers hfirst hsecond hsame
  sources item hitem := by
    rw [ids_saveIssuance]
    exact h.sources item hitem
  targets item hitem := by
    rw [ids_saveIssuance]
    exact h.targets item hitem

theorem keepsNumber_iff {issuance_number : Option Json} (hfound : db.findIssuance id = .ok issuance)
    (hnumbered : ∀ value, issuance_number = some value → requiredText s value = .ok row.issuance_number)
    (hunnumbered : issuance_number = none → row.issuance_number = issuance.issuance_number) :
    KeepsNumber s db id issuance_number ↔ (row.issuance_number = issuance.issuance_number ∨
      ∀ item ∈ db.relationships, item.relationshipType = "amends" → item.targetIssuanceId ≠ id) := by
  unfold KeepsNumber
  rw [issuance?_of_findIssuance hfound, Option.map_some]
  refine or_congr ?_ Iff.rfl
  constructor
  · intro hkeeps
    cases hgiven : issuance_number with
    | none => exact hunnumbered hgiven
    | some value =>
      obtain ⟨text, htext, hstored⟩ := hkeeps value hgiven
      have hsame := (hnumbered value hgiven).symm.trans htext
      rw [Except.ok.inj hsame]
      exact (Option.some.inj hstored).symm
  · intro hsame value hgiven
    exact ⟨row.issuance_number, hnumbered value hgiven, congrArg some hsame.symm⟩

theorem updateIssuance_mirrored {body : CreateIssuanceDto} (hr : Related db)
    (hcall : updateIssuanceBody s id body db = .ok () db') :
    Related db' ∧ (Mirrored db → (Mirrored db' ↔ KeepsMirror db (s, .updateIssuance id body))) := by
  obtain ⟨row, catalog, amended, url, hbody, hamended, rfl⟩ := updateIssuanceBody_returns hcall
  obtain ⟨updated, hupdated, hrow, hnumbered, hunnumbered, hfree⟩ := bodyRow_amendment hr hbody
  obtain ⟨issuance, hfound, hid, hsamenumber, hgiven, hnumber, hflag, hcolumn, u, htarget⟩ := updatedRow_amendment hupdated
  have hfields : row.id = updated.id ∧ row.is_amendment = updated.is_amendment ∧
      row.amended_issuance_number = updated.amended_issuance_number := by
    rw [hrow]
    exact ⟨rfl, rfl, rfl⟩
  obtain ⟨hrowid, hrowflag, hrowamended⟩ := hfields
  obtain ⟨hmem, rfl⟩ := findIssuance_eq_ok hfound
  rw [← hrowid] at hid
  rw [← hrowflag] at hflag
  rw [← hrowamended] at hcolumn
  have hsaved := hr.saveIssuance hid hfree
  have hlisted : issuance.id ∈ (db.saveIssuance row).issuances.map Issuance.id := by
    rw [ids_saveIssuance]
    exact List.mem_map_of_mem hmem
  have hrelated := hsaved.relate hlisted amended
  obtain ⟨hsame, hmirrored⟩ := mirrored_syncedSources s ((db.saveIssuance row).relate issuance.id amended) issuance.id url
  refine ⟨hsame.mpr hrelated, fun h => hmirrored.trans ?_⟩
  have hiff : Mirrored ((db.saveIssuance row).relate issuance.id amended) ↔ _ :=
    mirrored_iff_of_saved h hr hmem row hid rfl fun other hne => relate_apart amended hne
  rw [hiff]
  have hown := mirrors_relate_iff hsaved hflag hcolumn ?_ (fun htruthy => ?_) hamended
  · rw [hid] at hown
    rw [hown, hgiven, hnumber]
    show _ ↔ FitsTarget _ _ ∧ KeepsNumber s db issuance.id body.issuance_number
    rw [keepsNumber_iff hfound hnumbered fun hnone => (hunnumbered hnone).trans hsamenumber]
    unfold Register.givenAmendment
    rw [issuance?_of_findIssuance hfound]
    exact Iff.rfl
  · rw [hid]
    exact (h issuance hmem).one
  · obtain ⟨number, target, htrim, hbefore, hne⟩ := assertAmendmentTarget_eq_ok htarget htruthy
    obtain ⟨htargetmem, htargetnumber⟩ := mem_of_numbered hbefore
    have hne : target.id ≠ row.id := by
      rw [hid]
      exact fun hsame => hne (congrArg some hsame)
    refine ⟨number, target, htrim, ?_, hne⟩
    have hstays : target ∈ (db.saveIssuance row).issuances := mem_saveIssuance_iff.mpr (.inr ⟨htargetmem, hne⟩)
    refine find?_of_unique hstays (decide_eq_true htargetnumber) fun other hother hnumber => ?_
    exact List.inj_on_of_nodup_map hsaved.numbers hother hstays ((of_decide_eq_true hnumber).trans htargetnumber.symm)

theorem deleteIssuance_mirrored (hr : Related db) (hcall : deleteIssuance id db = .ok () db') :
    Related db' ∧ (Mirrored db → Mirrored db') := by
  obtain ⟨issuance, hfound, rfl⟩ := deleteIssuance_returns hcall
  obtain ⟨hmem, rfl⟩ := findIssuance_eq_ok hfound
  split_ifs with hdraft
  · have hapart : ∀ item ∈ db.relationships, item.sourceIssuanceId ≠ issuance.id ∧ item.targetIssuanceId ≠ issuance.id := by
      unfold Register.isUnusedDraft at hdraft
      simp only [Bool.and_eq_true, List.all_eq_true, decide_eq_true_eq] at hdraft
      exact hdraft.1.2
    have hstays : ∀ other ∈ db.issuances.map Issuance.id, other ≠ issuance.id →
        other ∈ (db.removeIssuance issuance.id).issuances.map Issuance.id := by
      intro other hother hne
      obtain ⟨row, hrow, rfl⟩ := List.mem_map.mp hother
      exact List.mem_map_of_mem (List.mem_filter.mpr ⟨hrow, decide_eq_true hne⟩)
    refine ⟨⟨?_, ?_, ?_, ?_⟩, fun h other hother => ?_⟩
    · exact hr.ids.sublist (List.filter_sublist.map _)
    · exact hr.numbers.sublist (List.filter_sublist.map _)
    · exact fun item hitem => hstays _ (hr.sources item hitem) (hapart item hitem).1
    · exact fun item hitem => hstays _ (hr.targets item hitem) (hapart item hitem).2
    · refine (h other (List.mem_of_mem_filter hother)).stay rfl fun item hitem target htarget hsame => ?_
      refine ⟨target, List.mem_filter.mpr ⟨htarget, decide_eq_true ?_⟩, rfl, rfl⟩
      rw [hsame]
      exact (hapart item (mem_amendmentsOf.mp hitem).1).2
  · exact ⟨hr, id⟩
  · have hsame (other : Issuance) (hother : other ∈ db.issuances)
        (hnumber : other.issuance_number = (retired issuance).issuance_number) : other.id = issuance.id := by
      rw [List.inj_on_of_nodup_map hr.numbers hother hmem hnumber]
    have hretired : Related (db.saveIssuance (retired issuance)) := hr.saveIssuance rfl hsame
    refine ⟨hretired, fun h => ?_⟩
    refine (mirrored_iff_of_saved h hr hmem (retired issuance) rfl rfl fun _ _ => rfl).mpr ⟨?_, .inl rfl⟩
    obtain ⟨hone, hflag, htarget⟩ := h issuance hmem
    refine ⟨hone, hflag, fun item hitem => ?_⟩
    obtain ⟨target, htargetmem, hid, hne, hamended⟩ := htarget item hitem
    exact ⟨target, mem_saveIssuance_iff.mpr (.inr ⟨htargetmem, hne⟩), hid, hne, hamended⟩

theorem writeAmendment_issuances (hr : Related db) (hmem : issuance ∈ db.issuances) (is_amendment : Bool)
    (amended_issuance_number : Option String) :
    (db.writeAmendment issuance.id is_amendment amended_issuance_number).issuances =
      (db.saveIssuance { issuance with is_amendment, amended_issuance_number }).issuances := by
  refine List.map_congr_left fun other hother => ?_
  show (if other.id = issuance.id then _ else _) = if other.id = issuance.id then _ else _
  split_ifs with hid
  · rw [List.inj_on_of_nodup_map hr.ids hother hmem hid]
  · rfl

/-- The amendment columns are no keys. -/
theorem Related.writeAmendment (h : Related db) (id : Nat) (is_amendment : Bool) (amended_issuance_number : Option String) :
    Related (db.writeAmendment id is_amendment amended_issuance_number) := by
  have hids : (db.writeAmendment id is_amendment amended_issuance_number).issuances.map Issuance.id =
      db.issuances.map Issuance.id := map_column_of_change fun _ _ _ => rfl
  have hnumbers : (db.writeAmendment id is_amendment amended_issuance_number).issuances.map Issuance.issuance_number =
      db.issuances.map Issuance.issuance_number := map_column_of_change fun _ _ _ => rfl
  refine ⟨?_, ?_, ?_, ?_⟩
  · rw [hids]
    exact h.ids
  · rw [hnumbers]
    exact h.numbers
  · rw [hids]
    exact h.sources
  · rw [hids]
    exact h.targets

theorem addRelationship_returns {issuanceId : Nat} {dto : RelationshipDto} (h : addRelationship s issuanceId dto db = .ok () db') :
    ∃ relationship target, relatable s db issuanceId dto = .ok (relationship, target) ∧
      db' = if isText "amends" dto.relationshipType then
        ({ db with relationships := db.relationships ++ [relationship] } : Register).writeAmendment issuanceId true
          (some target.issuance_number)
      else { db with relationships := db.relationships ++ [relationship] } := by
  unfold addRelationship at h
  simp only [returns_bind, returns_reads, returns_modify] at h
  obtain ⟨⟨relationship, target⟩, _, ⟨hrelatable, rfl⟩, rfl⟩ := h
  exact ⟨relationship, target, hrelatable, rfl⟩

theorem isText_eq_true {text : String} {value : Option Json} : isText text value = true ↔ value = some (.string text) := by
  constructor
  · intro h
    cases value with
    | none => cases h
    | some value => exact congrArg some (Json.eq_of_isText h)
  · rintro rfl
    simp [isText, Json.isText]

theorem relatable_eq_ok {issuanceId : Nat} {dto : RelationshipDto} {target : Issuance}
    (h : relatable s db issuanceId dto = .ok (item, target)) :
    ∃ issuance ∈ db.issuances, issuance.id = issuanceId ∧ target ∈ db.issuances ∧ target.id ≠ issuanceId ∧
      item.sourceIssuanceId = issuanceId ∧ item.targetIssuanceId = target.id ∧
      (isText "amends" dto.relationshipType = true ↔ item.relationshipType = "amends") ∧
      (isText "amends" dto.relationshipType = true → db.amendmentsOf issuanceId = []) := by
  simp only [relatable, bind_eq_ok, check_eq_ok] at h
  obtain ⟨_, hne, _, hallowed, issuance, hfound, target', htarget, _, hother, _, hexisting, text, htext, h⟩ := h
  cases h
  obtain ⟨hmem, rfl⟩ := findIssuance_eq_ok hfound
  obtain ⟨htargetmem, htargetid⟩ := findIssuance_eq_ok htarget
  refine ⟨issuance, hmem, rfl, htargetmem, ?_, rfl, htargetid.symm, ?_, ?_⟩
  · rw [htargetid]
    exact hne.symm
  · constructor
    · intro hamends
      rw [isText_eq_true.mp hamends] at htext
      exact (Except.ok.inj htext).symm
    · intro hamends
      have hplain : Plain (dto.relationshipType.getD .null) := plain_of_assertAllowed hallowed fun hnull => by cases hnull
      have hamends : text = "amends" := hamends
      have hvalue := requiredText_eq_ok htext hplain (by rw [hamends]; decide)
      rw [hamends] at hvalue
      cases hgiven : dto.relationshipType with
      | none =>
        rw [hgiven] at hvalue
        cases hvalue
      | some value =>
        rw [hgiven] at hvalue
        exact isText_eq_true.mpr (congrArg some hvalue)
  · intro hamends
    refine List.eq_nil_iff_forall_not_mem.mpr fun item hitem => ?_
    obtain ⟨hrelated, hsource, htype⟩ := mem_amendmentsOf.mp hitem
    rw [Option.isNone_iff_eq_none, Register.existingRelationship, List.find?_eq_none] at hexisting
    by_cases htarget : item.targetIssuanceId = dto.targetIssuanceId
    · refine hexisting item hrelated ?_
      rw [isText_eq_true.mp hamends]
      simp [hsource, htarget, htype]
    · refine hother ⟨hamends, List.any_eq_true.mpr ⟨item, hitem, decide_eq_true htarget⟩⟩

/-- A relationship of another type is no amendment. -/
theorem amendmentsOf_concat (hother : item.relationshipType ≠ "amends" ∨ item.sourceIssuanceId ≠ id) :
    ({ db with relationships := db.relationships ++ [item] } : Register).amendmentsOf id = db.amendmentsOf id := by
  show (db.relationships ++ [item]).filter _ = _
  rw [List.filter_append, List.filter_cons_of_neg, List.filter_nil, List.append_nil]
  · rfl
  · rw [decide_eq_true_eq]
    rintro ⟨hsource, htype⟩
    rcases hother with hne | hne
    · exact hne htype
    · exact hne hsource

/-- The relationships of the property are the same. -/
theorem Mirrored.of_amendmentsOf (h : Mirrored db) (hissuances : db'.issuances = db.issuances)
    (hsame : ∀ id, db'.amendmentsOf id = db.amendmentsOf id) : Mirrored db' := by
  intro issuance hmem
  rw [hissuances] at hmem
  refine (h issuance hmem).stay (hsame issuance.id) fun item _ target htarget _ => ⟨target, ?_, rfl, rfl⟩
  rw [hissuances]
  exact htarget

theorem addRelationship_mirrored {issuanceId : Nat} {dto : RelationshipDto} (hr : Related db)
    (hcall : addRelationship s issuanceId dto db = .ok () db') : Related db' ∧ (Mirrored db → Mirrored db') := by
  obtain ⟨item, target, hrelatable, rfl⟩ := addRelationship_returns hcall
  obtain ⟨issuance, hmem, rfl, htarget, hne, hsource, htargetid, htype, hnone⟩ := relatable_eq_ok hrelatable
  have hadded : Related { db with relationships := db.relationships ++ [item] } := by
    refine ⟨hr.ids, hr.numbers, fun other hother => ?_, fun other hother => ?_⟩
    · rcases List.mem_append.mp hother with hother | hother
      · exact hr.sources other hother
      · rw [List.mem_singleton.mp hother, hsource]
        exact List.mem_map_of_mem hmem
    · rcases List.mem_append.mp hother with hother | hother
      · exact hr.targets other hother
      · rw [List.mem_singleton.mp hother, htargetid]
        exact List.mem_map_of_mem htarget
  cases hamends : isText "amends" dto.relationshipType with
  | false =>
    rw [if_neg Bool.false_ne_true]
    have hother : item.relationshipType ≠ "amends" := by
      intro hsame
      rw [htype.mpr hsame] at hamends
      cases hamends
    exact ⟨hadded, fun h => h.of_amendmentsOf rfl fun _ => amendmentsOf_concat (.inl hother)⟩
  | true =>
    rw [if_pos rfl]
    refine ⟨hadded.writeAmendment _ _ _, fun h => ?_⟩
    have hwritten := writeAmendment_issuances hadded hmem true (some target.issuance_number)
    have hsame : db.amendmentsOf issuance.id = [] := hnone hamends
    refine (mirrored_iff_of_saved h hr hmem
      { issuance with is_amendment := true, amended_issuance_number := some target.issuance_number } rfl hwritten
      fun other hapart => ?_).mpr ⟨?_, .inl rfl⟩
    · exact amendmentsOf_concat (.inr (by rw [hsource]; exact hapart.symm))
    · have hone : (({ db with relationships := db.relationships ++ [item] } : Register).writeAmendment issuance.id true
          (some target.issuance_number)).amendmentsOf issuance.id = [item] := by
        show (db.relationships ++ [item]).filter _ = [item]
        rw [List.filter_append, show db.relationships.filter _ = [] from hsame]
        simp [hsource, htype.mp hamends]
      refine ⟨?_, ?_, ?_⟩
      · exact (congrArg List.length hone).le
      · refine iff_of_true rfl ?_
        show Register.amendmentsOf _ issuance.id ≠ []
        rw [hone]
        exact List.cons_ne_nil _ _
      · intro other hother
        have hother : other ∈ [item] := hone ▸ hother
        rw [List.mem_singleton.mp hother]
        refine ⟨target, ?_, htargetid.symm, hne, rfl⟩
        rw [hwritten]
        exact mem_saveIssuance_iff.mpr (.inr ⟨htarget, hne⟩)

theorem removeRelationship_returns {issuanceId : Nat} (h : removeRelationship issuanceId item db = .ok () db') :
    item ∈ db.relationships ∧ item.sourceIssuanceId = issuanceId ∧
      db' = if item.relationshipType = "amends" then
        ({ db with relationships := db.relationships.erase item } : Register).writeAmendment issuanceId false none
      else { db with relationships := db.relationships.erase item } := by
  unfold removeRelationship at h
  simp only [returns_bind, returns_reads, returns_modify, check_eq_ok] at h
  obtain ⟨_, _, ⟨⟨hmem, hsource⟩, rfl⟩, rfl⟩ := h
  exact ⟨hmem, hsource, rfl⟩

theorem amendmentsOf_erase (db : Register) (item : IssuanceRelationship) (id : Nat) :
    ({ db with relationships := db.relationships.erase item } : Register).amendmentsOf id = (db.amendmentsOf id).erase item :=
  List.erase_filter.symm

theorem removeRelationship_mirrored {issuanceId : Nat} (hr : Related db)
    (hcall : removeRelationship issuanceId item db = .ok () db') : Related db' ∧ (Mirrored db → Mirrored db') := by
  obtain ⟨hitem, rfl, rfl⟩ := removeRelationship_returns hcall
  have hremoved : Related { db with relationships := db.relationships.erase item } := by
    refine ⟨hr.ids, hr.numbers, fun other hother => ?_, fun other hother => ?_⟩
    · exact hr.sources other (List.mem_of_mem_erase hother)
    · exact hr.targets other (List.mem_of_mem_erase hother)
  obtain ⟨issuance, hmem, hsource⟩ := List.mem_map.mp (hr.sources item hitem)
  rw [← hsource]
  by_cases htype : item.relationshipType = "amends"
  · rw [if_pos htype]
    refine ⟨hremoved.writeAmendment _ _ _, fun h => ?_⟩
    have hwritten := writeAmendment_issuances hremoved hmem false none
    refine (mirrored_iff_of_saved h hr hmem { issuance with is_amendment := false, amended_issuance_number := none } rfl
      hwritten fun other hapart => ?_).mpr ⟨?_, .inl rfl⟩
    · refine (amendmentsOf_erase db item other).trans (List.erase_of_not_mem fun hof => ?_)
      exact hapart ((mem_amendmentsOf.mp hof).2.1.symm.trans hsource.symm)
    · have hof : item ∈ db.amendmentsOf issuance.id := mem_amendmentsOf.mpr ⟨hitem, hsource.symm, htype⟩
      have hnone : (({ db with relationships := db.relationships.erase item } : Register).writeAmendment issuance.id false
          none).amendmentsOf issuance.id = [] := by
        refine (amendmentsOf_erase db item issuance.id).trans (List.length_eq_zero_iff.mp ?_)
        have hone := (h issuance hmem).one
        rw [List.length_erase_of_mem hof]
        omega
      refine ⟨?_, ?_, ?_⟩
      · exact (congrArg List.length hnone).le.trans (Nat.zero_le 1)
      · refine iff_of_false Bool.false_ne_true ?_
        exact not_not_intro hnone
      · intro other hother
        have hother : other ∈ ([] : List IssuanceRelationship) := hnone ▸ hother
        cases hother
  · rw [if_neg htype]
    refine ⟨hremoved, fun h => h.of_amendmentsOf rfl fun id => ?_⟩
    rw [amendmentsOf_erase]
    exact List.erase_of_not_mem fun hof => htype (mem_amendmentsOf.mp hof).2.2

/-- A completed call keeps the keys, and the columns mirror the relationships exactly if the call keeps them so. -/
theorem amending_step {l : Services × AmendmentCall} (hr : Related db) (hs : amending.step db l db') :
    Related db' ∧ (Mirrored db → (Mirrored db' ↔ KeepsMirror db l)) := by
  obtain ⟨s, call⟩ := l
  have always (hkeeps : Related db' ∧ (Mirrored db → Mirrored db')) : Related db' ∧ (Mirrored db → (Mirrored db' ↔ True)) :=
    ⟨hkeeps.1, fun h => iff_true_intro (hkeeps.2 h)⟩
  cases call with
  | createIssuance dto => exact createIssuance_mirrored hr hs
  | updateIssuance id body => exact updateIssuance_mirrored hr hs
  | deleteIssuance id => exact always (deleteIssuance_mirrored hr hs)
  | addRelationship issuanceId dto => exact always (addRelationship_mirrored hr hs)
  | removeRelationship issuanceId relationship => exact always (removeRelationship_mirrored hr hs)

theorem related_of_init (h : amending.init db) : Related db ∧ Mirrored db := by
  obtain ⟨hissuances, hrelationships⟩ := h
  refine ⟨⟨?_, ?_, ?_, ?_⟩, ?_⟩
  · simp [hissuances]
  · simp [hissuances]
  · simp [hrelationships]
  · simp [hrelationships]
  · intro issuance hmem
    rw [hissuances] at hmem
    cases hmem

def numbered (issuance_number : String) : CreateIssuanceDto where
  issuance_number := some (.string issuance_number)

def amendedBy : RelationshipDto where
  targetIssuanceId := 1
  relationshipType := some (.string "amends")

/-- Two circulars. -/
def firstCircular : Register := leaves (createIssuance desk (numbered "MC-1")) {}

def twoCirculars : Register := leaves (createIssuance desk (numbered "MC-2")) firstCircular

/-- The second amends the first. -/
def amendedCircular : Register := leaves (addRelationship desk 2 amendedBy) twoCirculars

theorem run_amendedCircular : Run amending
    ([⟨{}, (desk, .createIssuance (numbered "MC-1")), firstCircular⟩] ++
      [⟨firstCircular, (desk, .createIssuance (numbered "MC-2")), twoCirculars⟩] ++
      [⟨twoCirculars, (desk, .addRelationship 2 amendedBy), amendedCircular⟩]) amendedCircular := by
  have hinit : Run amending [] {} := .init ⟨rfl, rfl⟩
  have hfirst : amending.step {} (desk, .createIssuance (numbered "MC-1")) firstCircular :=
    returns_of_returned (by decide +kernel)
  have hsecond : amending.step firstCircular (desk, .createIssuance (numbered "MC-2")) twoCirculars :=
    returns_of_returned (by decide +kernel)
  have hadded : amending.step twoCirculars (desk, .addRelationship 2 amendedBy) amendedCircular :=
    returns_of_returned (by decide +kernel)
  exact ((hinit.step hfirst).step hsecond).step hadded

def renumbered : Register := leaves (updateIssuanceBody desk 1 (numbered "MC-1A")) amendedCircular

end ComplianceHub.References
