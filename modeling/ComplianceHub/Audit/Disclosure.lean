import ComplianceHub.Audit.Alike
import ComplianceHub.Audit.Subscriber
import ComplianceHub.Lib.Rows

/-!
# What audit rows disclose

* `AlikeBut.shown` : what is shown of related entities that differ in credentials only;
* `Hides` : a property shows the same in both events; `sanitize_iff` : the texts of sanitized entities;
* `SameButCredentials` : two events that differ only in credentials, and change the same columns;
* `audit_rows_agree_iff` : the rows agree if and only if all that is logged does;
* `device_token_disclosed` : trusted devices with two tokens leave two rows.
-/

namespace ComplianceHub.Audit

variable {r : Runtime} {D : String → Value → Value → Prop}

/-! ## Related entities -/

theorem not_credential {name : String} (h : name ∉ CREDENTIAL_NAMES) (child child' : Value) :
    ¬ CredentialDiffers name child child' := fun hdiffers => h hdiffers.1

theorem AlikeBut.isDefined {value value' : Value} (h : AlikeBut D value value') :
    Audit.isDefined value = Audit.isDefined value' := by
  cases value <;> cases value' <;> first | rfl | cases h

theorem AlikeBut.orElse {a a' b b' : Value} (ha : AlikeBut D a a') (hb : AlikeBut D b b') :
    AlikeBut D (Audit.orElse a b) (Audit.orElse a' b') := by
  unfold Audit.orElse
  rw [ha.isNullish]
  split_ifs
  · exact hb
  · exact ha

theorem AlikeBut.trimmedText {value value' : Value} (h : AlikeBut D value value') :
    Audit.trimmedText r value = Audit.trimmedText r value' := by
  unfold Audit.trimmedText
  rw [h.isNullish, h.asText]

theorem AlikeBut.formatPersonName {person person' : Value} (h : AlikeBut CredentialDiffers person person') :
    Audit.formatPersonName r person = Audit.formatPersonName r person' := by
  have hget : ∀ name, name ∉ CREDENTIAL_NAMES → AlikeBut CredentialDiffers (person.get name) (person'.get name) :=
    fun name hname => h.get (not_credential hname)
  unfold Audit.formatPersonName
  simp only [List.map_cons, List.map_nil]
  rw [((hget "firstName" (by decide)).orElse (hget "first_name" (by decide))).trimmedText,
    ((hget "middleName" (by decide)).orElse (hget "middle_name" (by decide))).trimmedText,
    ((hget "lastName" (by decide)).orElse (hget "last_name" (by decide))).trimmedText,
    (hget "suffix" (by decide)).trimmedText, (hget "email" (by decide)).trimmedText]

theorem AlikeFields.append : ∀ {fields fields' tail tail' : Fields}, AlikeFields D fields fields' →
    AlikeFields D tail tail' → AlikeFields D (fields ++ tail) (fields' ++ tail')
  | [], [], _, _, _, htail => htail
  | (_, _) :: _, (_, _) :: _, _, _, h, htail => ⟨h.1, h.2.1, AlikeFields.append h.2.2 htail⟩

theorem AlikeFields.setField {fields fields' : Fields} (h : AlikeFields D fields fields') (name text : String) :
    AlikeFields D (Audit.setField fields name (.string text)) (Audit.setField fields' name (.string text)) := by
  have hmap : ∀ {fields fields' : Fields}, AlikeFields D fields fields' →
      AlikeFields D (fields.map fun field => if field.1 = name then (name, .string text) else field)
        (fields'.map fun field => if field.1 = name then (name, .string text) else field) := by
    intro fields
    induction fields with
    | nil =>
      intro fields' h
      cases fields' with
      | nil => exact trivial
      | cons _ _ => cases h
    | cons field rest ih =>
      intro fields' h
      cases fields' with
      | nil => cases h
      | cons field' rest' =>
        obtain ⟨key, child⟩ := field
        obtain ⟨key', child'⟩ := field'
        obtain ⟨rfl, hchild, h⟩ := h
        rw [List.map_cons, List.map_cons]
        split_ifs
        · exact ⟨rfl, .inr rfl, ih h⟩
        · exact ⟨rfl, hchild, ih h⟩
  unfold Audit.setField
  rw [h.keys]
  split_ifs
  · exact hmap h
  · exact h.append ⟨rfl, .inr rfl, trivial⟩

/-- Properties of alike values, those left out that are not defined. -/
theorem AlikeBut.kept {related related' : Value} (h : AlikeBut CredentialDiffers related related') :
    ∀ names : List String, (∀ name ∈ names, name ∉ CREDENTIAL_NAMES) →
      AlikeFields CredentialDiffers
        ((names.map fun name => (name, related.get name)).filter fun field => Audit.isDefined field.2)
        ((names.map fun name => (name, related'.get name)).filter fun field => Audit.isDefined field.2)
  | [], _ => trivial
  | name :: rest, hnames => by
    have hget := h.get (not_credential (hnames name List.mem_cons_self))
    have hrest := h.kept rest fun name hname => hnames name (List.mem_cons_of_mem _ hname)
    rw [List.map_cons, List.map_cons, List.filter_cons, List.filter_cons, hget.isDefined]
    split_ifs
    · exact ⟨rfl, .inr hget, hrest⟩
    · exact hrest

theorem nodup_setField {fields : Fields} (h : (fields.map Prod.fst).Nodup) (name : String) (value : Value) :
    ((setField fields name value).map Prod.fst).Nodup := by
  unfold setField
  split_ifs with hmem
  · have hkeys : (fields.map fun field => if field.1 = name then (name, value) else field).map Prod.fst =
        fields.map Prod.fst := Lib.map_column_of_change fun _ _ hname => hname.symm
    rw [hkeys]
    exact h
  · refine Lib.nodup_column_concat h fun field hfield hname => hmem ?_
    exact List.mem_map.mpr ⟨field, hfield, hname⟩

theorem nodup_keepProps (related : Value) : ((keepProps r related).map Prod.fst).Nodup := by
  have hkept : ((((["id", "email", "name", "username"] : List String).map fun name => (name, related.get name)).filter
      fun field => isDefined field.2).map Prod.fst).Nodup := by
    have hnames : (["id", "email", "name", "username"] : List String).Nodup := by decide
    refine List.Nodup.sublist (List.filter_sublist.map Prod.fst) ?_
    rw [List.map_map]
    exact hnames
  unfold keepProps
  dsimp only
  split_ifs
  · exact nodup_setField hkept _ _
  · exact hkept

theorem AlikeBut.keepProps {related related' : Value} (h : AlikeBut CredentialDiffers related related') :
    AlikeFields CredentialDiffers (Audit.keepProps r related) (Audit.keepProps r related') := by
  have hkept := h.kept ["id", "email", "name", "username"] (by decide)
  have hget : ∀ name, name ∉ CREDENTIAL_NAMES → Audit.isDefined (related.get name) = Audit.isDefined (related'.get name) :=
    fun name hname => (h.get (not_credential hname)).isDefined
  have hnamed : (["firstName", "middleName", "lastName", "suffix"].any fun name => Audit.isDefined (related.get name)) =
      ["firstName", "middleName", "lastName", "suffix"].any fun name => Audit.isDefined (related'.get name) := by
    simp only [List.any_cons, List.any_nil]
    rw [hget "firstName" (by decide), hget "middleName" (by decide), hget "lastName" (by decide), hget "suffix" (by decide)]
  unfold Audit.keepProps
  rw [hnamed, h.formatPersonName]
  dsimp only
  split_ifs
  · exact hkept.setField _ _
  · exact hkept

theorem AlikeBut.shown {key : String} {value value' : Value} (h : AlikeBut CredentialDiffers value value') :
    AlikeBut CredentialDiffers (Audit.shown r key value) (Audit.shown r key value') := by
  have hkept := h.keepProps (r := r)
  have hnodup := nodup_keepProps (r := r) value
  unfold Audit.shown
  rw [h.isObject]
  split_ifs
  · revert hkept hnodup
    cases Audit.keepProps r value with
    | nil =>
      cases Audit.keepProps r value' with
      | nil => exact fun _ _ => rfl
      | cons _ _ => exact fun hkept => hkept.elim
    | cons field rest =>
      cases Audit.keepProps r value' with
      | nil => exact fun hkept => hkept.elim
      | cons field' rest' => exact fun hkept hnodup => ⟨hnodup, hkept⟩
  · exact h

/-! ## Sanitized entities -/

/-- A property shows the same in both events: it is in neither, or differs under redacted names only. -/
def Hides (r : Runtime) (key : String) (value value' : Value) : Prop :=
  value.isNullish = true ∧ value'.isNullish = true ∨
    value.isNullish = false ∧ value'.isNullish = false ∧
      (key ∈ SENSITIVE_FIELD_NAMES ∨ AlikeBut Redacted (shown r key value) (shown r key value'))

def HidesAll (r : Runtime) (fields fields' : Fields) : Prop :=
  ∀ pair ∈ fields.zip fields', Hides r pair.1.1 pair.1.2 pair.2.2

theorem shown_isNullish (key : String) (value : Value) : (shown r key value).isNullish = value.isNullish := by
  unfold shown
  split_ifs with h
  · cases value with
    | date _ | array _ | object _ =>
      split <;> rfl
    | _ => exact absurd h.2 Bool.false_ne_true
  · rfl

theorem sanitizeEntity_cons (key : String) (value : Value) (rest : Fields) :
    sanitizeEntity r ((key, value) :: rest) =
      if value.isNullish then sanitizeEntity r rest
      else (key, if key ∈ SENSITIVE_FIELD_NAMES then .string "[REDACTED]" else redactAuditValue r (shown r key value)) ::
        sanitizeEntity r rest := by
  unfold sanitizeEntity
  rw [List.map_cons, List.filter_cons, shown_isNullish]
  cases value.isNullish <;> rfl

theorem sanitizeEntity_keys : ∀ (fields : Fields) {key : String}, key ∈ (sanitizeEntity r fields).map Prod.fst →
    key ∈ fields.map Prod.fst
  | [], _, h => h
  | (key', value) :: rest, key, h => by
    rw [sanitizeEntity_cons] at h
    by_cases hnullish : value.isNullish = true
    · rw [if_pos hnullish] at h
      exact List.mem_cons_of_mem _ (sanitizeEntity_keys rest h)
    · rw [if_neg hnullish] at h
      rcases List.mem_cons.mp h with rfl | h
      · exact List.mem_cons_self
      · exact List.mem_cons_of_mem _ (sanitizeEntity_keys rest h)

/-- A property that is logged has a text. -/
theorem property_text (key : String) {value : Value} (h : value.isNullish = false) :
    ∃ text, stringify r
      (if key ∈ SENSITIVE_FIELD_NAMES then .string "[REDACTED]" else redactAuditValue r (shown r key value)) =
        some text := by
  have hshown := shown_isNullish (r := r) key value
  rw [h] at hshown
  split_ifs
  · exact ⟨_, rfl⟩
  · cases hvalue : shown r key value with
    | undefined =>
      rw [hvalue] at hshown
      cases hshown
    | _ => exact ⟨_, rfl⟩

/-- The texts of two properties agree where both are hidden, or both show the same. -/
theorem property_iff {key : String} {value value' : Value}
    (h : CredentialDiffers key value value' ∨ AlikeBut CredentialDiffers value value') :
    stringify r (if key ∈ SENSITIVE_FIELD_NAMES then .string "[REDACTED]" else redactAuditValue r (shown r key value)) =
        stringify r
          (if key ∈ SENSITIVE_FIELD_NAMES then .string "[REDACTED]" else redactAuditValue r (shown r key value')) ↔
      key ∈ SENSITIVE_FIELD_NAMES ∨ AlikeBut Redacted (shown r key value) (shown r key value') := by
  split_ifs with hlisted
  · simp [hlisted]
  · rw [or_iff_right hlisted]
    rcases h with ⟨-, hcredential, hcredential'⟩ | h
    · have hplain : ∀ {value : Value}, IsCredential value → shown r key value = value := by
        rintro value (rfl | rfl | ⟨text, rfl⟩) <;> exact if_neg fun h => absurd h.2 Bool.false_ne_true
      rw [hplain hcredential, hplain hcredential']
      constructor
      · intro heq
        obtain rfl := isCredential_inj hcredential hcredential' heq
        exact alikeBut_of_isCredential hcredential
      · exact stringify_redact
    · exact stringify_redact_iff h.shown

theorem sanitize_iff : ∀ {fields fields' : Fields}, (fields.map Prod.fst).Nodup →
    AlikeFields CredentialDiffers fields fields' →
    (stringifyFields r (sanitizeEntity r fields) = stringifyFields r (sanitizeEntity r fields') ↔
      HidesAll r fields fields')
  | [], [], _, _ => by simp [HidesAll]
  | (key, value) :: rest, (_, value') :: rest', hnodup, ⟨rfl, hvalue, h⟩ => by
    rw [List.map_cons, List.nodup_cons] at hnodup
    obtain ⟨hkey, hnodup⟩ := hnodup
    have hkey' : key ∉ rest'.map Prod.fst := h.keys ▸ hkey
    have hfresh : key ∉ (sanitizeEntity r rest).map Prod.fst := fun hmem => hkey (sanitizeEntity_keys rest hmem)
    have hfresh' : key ∉ (sanitizeEntity r rest').map Prod.fst := fun hmem => hkey' (sanitizeEntity_keys rest' hmem)
    have hall : HidesAll r ((key, value) :: rest) ((key, value') :: rest') ↔
        Hides r key value value' ∧ HidesAll r rest rest' := by
      simp [HidesAll]
    rw [hall, ← sanitize_iff hnodup h, sanitizeEntity_cons, sanitizeEntity_cons]
    unfold Hides
    cases hnullish : value.isNullish with
    | true =>
      cases hnullish' : value'.isNullish with
      | true => simp
      | false =>
        obtain ⟨text, htext⟩ := property_text (r := r) key hnullish'
        simpa [stringifyFields, htext] using (ne_stringifyFields hfresh text _).symm
    | false =>
      cases hnullish' : value'.isNullish with
      | true =>
        obtain ⟨text, htext⟩ := property_text (r := r) key hnullish
        simpa [stringifyFields, htext] using ne_stringifyFields hfresh' text _
      | false =>
        rw [if_neg Bool.false_ne_true, if_neg Bool.false_ne_true, stringifyFields_cons_inj hfresh hfresh',
          property_iff hvalue]
        simp

/-! ## Rows -/

def SameEntity : Option Fields → Option Fields → Prop
  | none, none => True
  | some fields, some fields' => AlikeBut CredentialDiffers (.object fields) (.object fields')
  | _, _ => False

/-- Two events that differ in credentials only, and are about the same columns. -/
structure SameButCredentials (r : Runtime) (event event' : Event) : Prop where
  tableName : event.tableName = event'.tableName
  database : event.database = event'.database
  entityId : event.entityId = event'.entityId
  entity : SameEntity event.entity event'.entity
  databaseEntity : SameEntity event.databaseEntity event'.databaseEntity
  updatedColumns : event.updatedColumns = event'.updatedColumns
  changedKeys : ∀ entity entity', event.entity = some entity → event'.entity = some entity' →
    changedKeys r entity event.databaseEntity = changedKeys r entity' event'.databaseEntity

/-- The old and the new properties that an event logs, should it have an entity. -/
def properties (r : Runtime) (event : Event) (action : Action) : Fields × Fields :=
  match event.entity with
  | none => ([], [])
  | some entity => logged r event entity action

/-- All that the events log shows the same. -/
def Hidden (r : Runtime) (action : Action) (event event' : Event) : Prop :=
  event.tableName ∉ ["ticket_events", "audit_log"] →
    HidesAll r (properties r event action).1 (properties r event' action).1 ∧
      HidesAll r (properties r event action).2 (properties r event' action).2

theorem select_alike {entity entity' : Fields} (h : AlikeFields CredentialDiffers entity entity') :
    ∀ keys : List String, AlikeFields CredentialDiffers (select entity keys) (select entity' keys)
  | [] => trivial
  | _ :: rest => ⟨rfl, h.lookup, select_alike h rest⟩

theorem nulls_alike : ∀ keys : List String,
    AlikeFields CredentialDiffers (keys.map fun key => (key, .null)) (keys.map fun key => (key, .null))
  | [] => trivial
  | _ :: rest => ⟨rfl, .inr rfl, nulls_alike rest⟩

theorem nodup_map_key {keys : List String} (h : keys.Nodup) (value : String → Value) :
    ((keys.map fun key => (key, value key)).map Prod.fst).Nodup := by
  rw [List.map_map]
  exact (List.map_id keys).symm ▸ h

variable {event event' : Event} {entity entity' : Fields}

theorem nodup_updatedKeys (r : Runtime) (event : Event) (hnodup : (entity.map Prod.fst).Nodup) :
    (updatedKeys r event entity).Nodup := by
  unfold updatedKeys
  split_ifs
  · unfold Audit.changedKeys
    split
    · exact List.nodup_nil
    · exact hnodup.sublist List.filter_sublist
  · exact event.updatedColumns_nodup

/-- What two such events log differs in credentials only. -/
theorem SameButCredentials.logged (h : SameButCredentials r event event') (action : Action)
    (hentity : event.entity = some entity) (hentity' : event'.entity = some entity') :
    let log := Audit.logged r event entity action
    let log' := Audit.logged r event' entity' action
    ((log.1.map Prod.fst).Nodup ∧ AlikeFields CredentialDiffers log.1 log'.1) ∧
      (log.2.map Prod.fst).Nodup ∧ AlikeFields CredentialDiffers log.2 log'.2 := by
  have halike := h.entity
  rw [hentity, hentity'] at halike
  have hdatabase := h.databaseEntity
  cases action with
  | INSERT => exact ⟨⟨List.nodup_nil, trivial⟩, halike⟩
  | DELETE =>
    refine ⟨?_, List.nodup_nil, trivial⟩
    unfold Audit.logged
    revert hdatabase
    cases event.databaseEntity <;> cases event'.databaseEntity <;> intro hdatabase
    · exact halike
    · exact hdatabase.elim
    · exact hdatabase.elim
    · exact hdatabase
  | UPDATE =>
    have hkeys : updatedKeys r event entity = updatedKeys r event' entity' := by
      unfold updatedKeys
      rw [h.updatedColumns, h.changedKeys entity entity' hentity hentity']
    have hnodup := nodup_updatedKeys r event halike.1
    unfold Audit.logged
    dsimp only
    rw [← hkeys]
    refine ⟨?_, nodup_map_key hnodup _, select_alike halike.2 _⟩
    revert hdatabase
    cases event.databaseEntity <;> cases event'.databaseEntity <;> intro hdatabase
    · exact ⟨nodup_map_key hnodup _, nulls_alike _⟩
    · exact hdatabase.elim
    · exact hdatabase.elim
    · exact ⟨nodup_map_key hnodup _, select_alike hdatabase.2 _⟩

theorem AlikeBut.isTruthy {value value' : Value} (h : AlikeBut D value value') :
    Audit.isTruthy value = Audit.isTruthy value' := by
  cases value with
  | array items =>
    cases value' with
    | array items' => rfl
    | _ => cases h
  | object fields =>
    cases value' with
    | object fields' => rfl
    | _ => cases h
  | _ =>
    cases h
    rfl

theorem SameButCredentials.rowId (h : SameButCredentials r event event')
    (halike : AlikeBut CredentialDiffers (.object entity) (.object entity')) :
    Audit.rowId r event entity = Audit.rowId r event' entity' := by
  have hid : AlikeBut CredentialDiffers (get entity "id") (get entity' "id") :=
    AlikeBut.get halike (not_credential (by decide))
  unfold Audit.rowId
  rw [h.entityId, hid.isTruthy, hid.asText]

/-- A sanitized entity with an empty text is empty. -/
theorem sanitizeEntity_eq_nil : ∀ {fields : Fields}, stringifyFields r (sanitizeEntity r fields) = [] →
    sanitizeEntity r fields = []
  | [], _ => rfl
  | (key, value) :: rest, h => by
    rw [sanitizeEntity_cons] at h ⊢
    cases hnullish : value.isNullish with
    | true =>
      rw [hnullish, if_pos rfl] at h
      exact sanitizeEntity_eq_nil h
    | false =>
      obtain ⟨text, htext⟩ := property_text (r := r) key hnullish
      rw [hnullish, if_neg Bool.false_ne_true, stringifyFields, htext] at h
      cases h

theorem valuesText_iff {fields fields' : Fields} (action : Action) :
    valuesText r (sanitizeEntity r fields) action = valuesText r (sanitizeEntity r fields') action ↔
      stringifyFields r (sanitizeEntity r fields) = stringifyFields r (sanitizeEntity r fields') := by
  have hnil : stringifyFields r (sanitizeEntity r fields) = [] → sanitizeEntity r fields = [] := sanitizeEntity_eq_nil
  have hnil' : stringifyFields r (sanitizeEntity r fields') = [] → sanitizeEntity r fields' = [] := sanitizeEntity_eq_nil
  unfold valuesText
  split_ifs with h h' h'
  · rw [h.2, h'.2]
    exact iff_of_true rfl rfl
  · refine iff_of_false (by simp [stringify]) fun heq => h' ⟨h.1, hnil' ?_⟩
    rw [← heq, h.2]
    rfl
  · refine iff_of_false (by simp [stringify]) fun heq => h ⟨h'.1, hnil ?_⟩
    rw [heq, h'.2]
    rfl
  · simp [stringify]

/-- That an update has nothing to log is seen in the texts. -/
theorem isEmptyUpdate_iff (old new : Fields) (action : Action) :
    isEmptyUpdate action (sanitizeEntity r old) (sanitizeEntity r new) = true ↔
      action = .UPDATE ∧ stringifyFields r (sanitizeEntity r old) = [] ∧
        stringifyFields r (sanitizeEntity r new) = [] := by
  rw [isEmptyUpdate, Bool.and_eq_true, Bool.and_eq_true, List.isEmpty_iff, List.isEmpty_iff, decide_eq_true_eq, and_assoc]
  constructor
  · rintro ⟨haction, hold, hnew⟩
    rw [hold, hnew]
    exact ⟨haction, rfl, rfl⟩
  · rintro ⟨haction, hold, hnew⟩
    exact ⟨haction, sanitizeEntity_eq_nil hold, sanitizeEntity_eq_nil hnew⟩

theorem oldValues_iff (action : Action) :
    (if action = .INSERT then none else valuesText r (sanitizeEntity r (logged r event entity action).1) action) =
        (if action = .INSERT then none else valuesText r (sanitizeEntity r (logged r event' entity' action).1) action) ↔
      stringifyFields r (sanitizeEntity r (logged r event entity action).1) =
        stringifyFields r (sanitizeEntity r (logged r event' entity' action).1) := by
  cases action with
  | INSERT => exact iff_of_true rfl rfl
  | UPDATE => exact valuesText_iff .UPDATE
  | DELETE => exact valuesText_iff .DELETE

theorem newValues_iff (action : Action) :
    (if action = .DELETE then none else valuesText r (sanitizeEntity r (logged r event entity action).2) action) =
        (if action = .DELETE then none else valuesText r (sanitizeEntity r (logged r event' entity' action).2) action) ↔
      stringifyFields r (sanitizeEntity r (logged r event entity action).2) =
        stringifyFields r (sanitizeEntity r (logged r event' entity' action).2) := by
  cases action with
  | INSERT => exact valuesText_iff .INSERT
  | UPDATE => exact valuesText_iff .UPDATE
  | DELETE => exact iff_of_true rfl rfl

theorem auditRow_iff (h : SameButCredentials r event event')
    (halike : AlikeBut CredentialDiffers (.object entity) (.object entity')) (ctx : AuditContext) (action : Action) :
    auditRow r ctx event entity action (sanitizeEntity r (logged r event entity action).1)
        (sanitizeEntity r (logged r event entity action).2) =
      auditRow r ctx event' entity' action (sanitizeEntity r (logged r event' entity' action).1)
        (sanitizeEntity r (logged r event' entity' action).2) ↔
      stringifyFields r (sanitizeEntity r (logged r event entity action).1) =
          stringifyFields r (sanitizeEntity r (logged r event' entity' action).1) ∧
        stringifyFields r (sanitizeEntity r (logged r event entity action).2) =
          stringifyFields r (sanitizeEntity r (logged r event' entity' action).2) := by
  rw [← oldValues_iff, ← newValues_iff, auditRow, auditRow, AuditRow.mk.injEq, h.tableName, h.database, h.rowId halike]
  simp only [true_and, and_true]

/-- **Audit rows and credentials.** Two events that differ in credentials only leave the same row if and only if every
credential that is logged is redacted, and is in both events or in neither. -/
theorem audit_rows_agree_iff (h : SameButCredentials r event event') (ctx : AuditContext) (action : Action) :
    logAudit r ctx event action = logAudit r ctx event' action ↔ Hidden r action event event' := by
  have hsame := h.entity
  unfold logAudit Hidden properties
  cases hentity : event.entity with
  | none =>
    cases hentity' : event'.entity with
    | none => simp [HidesAll]
    | some entity' =>
      rw [hentity, hentity'] at hsame
      exact hsame.elim
  | some entity =>
    cases hentity' : event'.entity with
    | none =>
      rw [hentity, hentity'] at hsame
      exact hsame.elim
    | some entity' =>
      rw [hentity, hentity'] at hsame
      obtain ⟨⟨hnodup, halike⟩, hnodup', halike'⟩ := h.logged action hentity hentity'
      dsimp only
      rw [← sanitize_iff hnodup halike, ← sanitize_iff hnodup' halike', ← auditRow_iff h hsame ctx action, ← h.tableName]
      by_cases htable : event.tableName ∈ ["ticket_events", "audit_log"]
      · rw [if_pos htable, if_pos htable]
        exact iff_of_true rfl fun hlogged => absurd htable hlogged
      · rw [if_neg htable, if_neg htable, imp_iff_right htable]
        have hrow := auditRow_iff h hsame ctx action
        have hempty := isEmptyUpdate_iff (r := r) (logged r event entity action).1 (logged r event entity action).2 action
        have hempty' :=
          isEmptyUpdate_iff (r := r) (logged r event' entity' action).1 (logged r event' entity' action).2 action
        split_ifs with hnone hnone' hnone'
        · obtain ⟨-, hold, hnew⟩ := hempty.mp hnone
          obtain ⟨-, hold', hnew'⟩ := hempty'.mp hnone'
          exact iff_of_true rfl (hrow.mpr ⟨hold.trans hold'.symm, hnew.trans hnew'.symm⟩)
        · obtain ⟨haction, hold, hnew⟩ := hempty.mp hnone
          refine iff_of_false (by simp) fun heq => hnone' (hempty'.mpr ?_)
          obtain ⟨hsold, hsnew⟩ := hrow.mp heq
          exact ⟨haction, hsold ▸ hold, hsnew ▸ hnew⟩
        · obtain ⟨haction, hold, hnew⟩ := hempty'.mp hnone'
          refine iff_of_false (by simp) fun heq => hnone (hempty.mpr ?_)
          obtain ⟨hsold, hsnew⟩ := hrow.mp heq
          exact ⟨haction, hsold.trans hold, hsnew.trans hnew⟩
        · rw [Option.some.injEq]

/-! ## A password and a trusted device -/

def plain : Runtime := ⟨fun _ => "", fun _ => ""⟩

/-- An account is inserted. -/
def userInserted (passwordHash : String) : Event where
  tableName := "users"
  entityId := .number 7
  entity := some [("id", .number 7), ("email", .string "ana@example.org"), ("passwordHash", .string passwordHash)]

/-- A trusted device is inserted. -/
def deviceInserted (deviceToken : String) : Event where
  tableName := "user_trusted_devices"
  entityId := .number 1
  entity := some [("id", .number 1), ("userId", .number 7), ("deviceToken", .string deviceToken)]

theorem differs_of_text {key : String} (h : key ∈ CREDENTIAL_NAMES) (text text' : String) :
    CredentialDiffers key (.string text) (.string text') := ⟨h, .inr (.inr ⟨text, rfl⟩), .inr (.inr ⟨text', rfl⟩)⟩

theorem sameBut_userInserted (passwordHash passwordHash' : String) :
    SameButCredentials plain (userInserted passwordHash) (userInserted passwordHash') where
  tableName := rfl
  database := rfl
  entityId := rfl
  entity := by
    have hkeys : (["id", "email", "passwordHash"] : List String).Nodup := by decide
    exact ⟨hkeys, rfl, .inr rfl, rfl, .inr rfl, rfl, .inl (differs_of_text (by decide) _ _), trivial⟩
  databaseEntity := trivial
  updatedColumns := rfl
  changedKeys _ _ _ _ := rfl

theorem sameBut_deviceInserted (deviceToken deviceToken' : String) :
    SameButCredentials plain (deviceInserted deviceToken) (deviceInserted deviceToken') where
  tableName := rfl
  database := rfl
  entityId := rfl
  entity := by
    have hkeys : (["id", "userId", "deviceToken"] : List String).Nodup := by decide
    exact ⟨hkeys, rfl, .inr rfl, rfl, .inr rfl, rfl, .inl (differs_of_text (by decide) _ _), trivial⟩
  databaseEntity := trivial
  updatedColumns := rfl
  changedKeys _ _ _ _ := rfl

theorem audit_rows_agree_on_passwords :
    logAudit plain {} (userInserted "h1") .INSERT = logAudit plain {} (userInserted "h2") .INSERT := by
  refine (audit_rows_agree_iff (sameBut_userInserted "h1" "h2") {} .INSERT).mpr fun _ => ⟨?_, ?_⟩
  · exact fun pair hpair => absurd hpair List.not_mem_nil
  · intro pair hpair
    rcases List.mem_cons.mp hpair with rfl | hpair
    · exact .inr ⟨rfl, rfl, .inr rfl⟩
    rcases List.mem_cons.mp hpair with rfl | hpair
    · exact .inr ⟨rfl, rfl, .inr rfl⟩
    rw [List.mem_singleton.mp hpair]
    exact .inr ⟨rfl, rfl, .inl (by decide)⟩

/-- The token of a trusted device is written out. -/
theorem device_token_disclosed :
    ¬ ∀ (r : Runtime) (event event' : Event) (ctx : AuditContext) (action : Action),
      SameButCredentials r event event' → logAudit r ctx event action = logAudit r ctx event' action := by
  intro hall
  have hsame := hall plain _ _ {} .INSERT (sameBut_deviceInserted "t1" "t2")
  have hdiffer : logAudit plain {} (deviceInserted "t1") .INSERT ≠ logAudit plain {} (deviceInserted "t2") .INSERT := by
    decide +kernel
  exact hdiffer hsame

end ComplianceHub.Audit
