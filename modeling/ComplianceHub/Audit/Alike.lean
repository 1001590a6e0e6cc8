import ComplianceHub.Audit.Redaction
import Mathlib.Data.List.Nodup

/-!
# Values that differ in credentials

* `AlikeBut D` : two values that differ only where `D` lets a property differ;
* `CredentialDiffers`, `Redacted` : the properties that hold credentials, and those that redaction hides;
* `AlikeBut.asText`, `AlikeBut.get` : what alike values have in common;
* `stringify_redact_iff` : for values that differ in credentials only, the redacted texts agree if and only if the values
  differ under redacted names only.
-/

namespace ComplianceHub.Audit

/-- The properties that hold credentials: password hashes, MFA codes, rating tokens, codes and sessions, tokens of trusted
devices, the password of the mail server and the subject of a Google account. -/
def CREDENTIAL_NAMES : List String :=
  ["passwordHash", "mfaCode", "tokenHash", "otpHash", "sessionHash", "deviceToken", "smtpPass", "googleSub"]

/-- A text, or nothing. -/
def IsCredential (value : Value) : Prop := value = .undefined ∨ value = .null ∨ ∃ text, value = .string text

/-! ## Values that differ in some properties -/

mutual

def AlikeBut (D : String → Value → Value → Prop) : Value → Value → Prop
  | .array items, .array items' => AlikeItems D items items'
  | .object fields, .object fields' => (fields.map Prod.fst).Nodup ∧ AlikeFields D fields fields'
  | value, value' => value = value'

def AlikeItems (D : String → Value → Value → Prop) : List Value → List Value → Prop
  | [], [] => True
  | item :: rest, item' :: rest' => AlikeBut D item item' ∧ AlikeItems D rest rest'
  | _, _ => False

def AlikeFields (D : String → Value → Value → Prop) : List (String × Value) → List (String × Value) → Prop
  | [], [] => True
  | (key, child) :: rest, (key', child') :: rest' =>
    key = key' ∧ (D key child child' ∨ AlikeBut D child child') ∧ AlikeFields D rest rest'
  | _, _ => False

end

/-- A credential may be any. -/
def CredentialDiffers (key : String) (value value' : Value) : Prop :=
  key ∈ CREDENTIAL_NAMES ∧ IsCredential value ∧ IsCredential value'

/-- What is under a redacted name may be anything. -/
def Redacted (key : String) (_ _ : Value) : Prop := key ∈ SENSITIVE_FIELD_NAMES

variable {r : Runtime} {D : String → Value → Value → Prop}

theorem AlikeBut.isNullish {value value' : Value} (h : AlikeBut D value value') : value.isNullish = value'.isNullish := by
  cases value <;> cases value' <;> first | rfl | cases h

theorem AlikeBut.isObject {value value' : Value} (h : AlikeBut D value value') : value.isObject = value'.isObject := by
  cases value <;> cases value' <;> first | rfl | cases h

theorem AlikeFields.keys : ∀ {fields fields' : Fields}, AlikeFields D fields fields' →
    fields.map Prod.fst = fields'.map Prod.fst
  | [], [], _ => rfl
  | (key, _) :: _, (_, _) :: _, ⟨rfl, _, h⟩ => congrArg (key :: ·) h.keys

/-- A property of both, should `D` not let it differ. -/
theorem AlikeFields.lookup : ∀ {fields fields' : Fields} {name : String}, AlikeFields D fields fields' →
    D name ((fields.lookup name).getD .undefined) ((fields'.lookup name).getD .undefined) ∨
      AlikeBut D ((fields.lookup name).getD .undefined) ((fields'.lookup name).getD .undefined)
  | [], [], _, _ => .inr rfl
  | (key, child) :: rest, (_, child') :: rest', name, ⟨rfl, hchild, h⟩ => by
    by_cases hname : name = key
    · subst hname
      rw [List.lookup_cons_self, List.lookup_cons_self]
      exact hchild
    · have hne : (name == key) = false := beq_false_of_ne hname
      rw [List.lookup_cons, List.lookup_cons, hne]
      exact h.lookup

theorem AlikeBut.get {value value' : Value} {name : String} (h : AlikeBut D value value')
    (hname : ∀ child child', ¬ D name child child') : AlikeBut D (value.get name) (value'.get name) := by
  cases value with
  | object fields =>
    cases value' with
    | object fields' => exact h.2.lookup.resolve_left (hname _ _)
    | _ => cases h
  | array items =>
    cases value' with
    | array items' => exact rfl
    | _ => cases h
  | _ =>
    cases h
    exact rfl

/-! ## Texts -/

mutual

theorem AlikeBut.asText : ∀ {value value' : Value}, AlikeBut D value value' →
    Audit.asText r value = Audit.asText r value'
  | .array items, .array items', h => by
    rw [Audit.asText, Audit.asText, AlikeItems.texts h]
  | .object _, .object _, _ => rfl
  | .undefined, _, h | .null, _, h | .bool _, _, h | .number _, _, h | .string _, _, h | .date _, _, h => by
    cases h
    rfl

theorem AlikeItems.texts : ∀ {items items' : List Value}, AlikeItems D items items' → itemTexts r items = itemTexts r items'
  | [], [], _ => rfl
  | item :: rest, item' :: rest', h => by
    rw [itemTexts, itemTexts, h.1.isNullish, AlikeBut.asText h.1, AlikeItems.texts h.2]

end

mutual

/-- What differs under redacted names only has one redacted text. -/
theorem stringify_redact : ∀ {value value' : Value}, AlikeBut Redacted value value' →
    stringify r (redactAuditValue r value) = stringify r (redactAuditValue r value')
  | .array items, .array items', h => by
    simp only [redactAuditValue, stringify, stringify_redactItems h]
  | .object fields, .object fields', h => by
    simp only [redactAuditValue, stringify, stringify_redactFields h.2]
  | .undefined, _, h | .null, _, h | .bool _, _, h | .number _, _, h | .string _, _, h | .date _, _, h => by
    cases h
    rfl

theorem stringify_redactItems : ∀ {items items' : List Value}, AlikeItems Redacted items items' →
    stringifyItems r (redactItems r items) = stringifyItems r (redactItems r items')
  | [], [], _ => rfl
  | item :: rest, item' :: rest', h => by
    simp only [redactItems, stringifyItems, stringify_redact h.1, stringify_redactItems h.2]

theorem stringify_redactFields : ∀ {fields fields' : Fields}, AlikeFields Redacted fields fields' →
    stringifyFields r (redactFields r fields) = stringifyFields r (redactFields r fields')
  | [], [], _ => rfl
  | (key, child) :: rest, (_, child') :: rest', ⟨rfl, hchild, h⟩ => by
    have hsame : stringify r (if key ∈ SENSITIVE_FIELD_NAMES then .string "[REDACTED]" else redactAuditValue r child) =
        stringify r (if key ∈ SENSITIVE_FIELD_NAMES then .string "[REDACTED]" else redactAuditValue r child') := by
      split_ifs with hlisted
      · rfl
      · exact stringify_redact (hchild.resolve_left hlisted)
    simp only [redactFields, stringifyFields, hsame, stringify_redactFields h]

end

theorem stringifyFields_keys : ∀ (fields : Fields) {key : String}, key ∈ (stringifyFields r fields).map Prod.fst →
    key ∈ fields.map Prod.fst
  | [], _, h => h
  | (key', child) :: rest, key, h => by
    rw [stringifyFields] at h
    split at h
    · rcases List.mem_cons.mp h with rfl | h
      · exact List.mem_cons_self
      · exact List.mem_cons_of_mem _ (stringifyFields_keys rest h)
    · exact List.mem_cons_of_mem _ (stringifyFields_keys rest h)

theorem redactFields_keys : ∀ fields : Fields, (redactFields r fields).map Prod.fst = fields.map Prod.fst
  | [] => rfl
  | (key, _) :: rest => congrArg (key :: ·) (redactFields_keys rest)

/-- A key that the fields do not have does not head their text. -/
theorem ne_stringifyFields {key : String} {rest : Fields} (hkey : key ∉ rest.map Prod.fst) (text : Json)
    (tail : List (String × Json)) : (key, text) :: tail ≠ stringifyFields r rest := by
  intro heq
  refine hkey (stringifyFields_keys (r := r) rest ?_)
  rw [← heq]
  exact List.mem_cons_self

/-- Texts of fields with one key at the head agree if and only if both the heads and the rest do. -/
theorem stringifyFields_cons_inj {key : String} {child child' : Value} {rest rest' : Fields}
    (hkey : key ∉ rest.map Prod.fst) (hkey' : key ∉ rest'.map Prod.fst) :
    stringifyFields r ((key, child) :: rest) = stringifyFields r ((key, child') :: rest') ↔
      stringify r child = stringify r child' ∧ stringifyFields r rest = stringifyFields r rest' := by
  rw [stringifyFields, stringifyFields]
  cases stringify r child with
  | none =>
    cases stringify r child' with
    | none => simp
    | some text' => simpa using (ne_stringifyFields hkey text' _).symm
  | some text =>
    cases stringify r child' with
    | none => simpa using ne_stringifyFields hkey' text _
    | some text' => simp

theorem isCredential_inj {value value' : Value} (h : IsCredential value) (h' : IsCredential value')
    (heq : stringify r (redactAuditValue r value) = stringify r (redactAuditValue r value')) : value = value' := by
  rcases h with rfl | rfl | ⟨text, rfl⟩ <;> rcases h' with rfl | rfl | ⟨text', rfl⟩ <;> cases heq <;> rfl

theorem alikeBut_of_isCredential {value : Value} (h : IsCredential value) : AlikeBut D value value := by
  rcases h with rfl | rfl | ⟨text, rfl⟩ <;> exact rfl

/-- In an array `undefined` is written as `null`, which alike values are both or neither. -/
theorem stringify_of_getD {value value' : Value} (h : AlikeBut D value value')
    (heq : (stringify r (redactAuditValue r value)).getD .null = (stringify r (redactAuditValue r value')).getD .null) :
    stringify r (redactAuditValue r value) = stringify r (redactAuditValue r value') := by
  cases value with
  | array items =>
    cases value' with
    | array items' => exact congrArg some heq
    | _ => cases h
  | object fields =>
    cases value' with
    | object fields' => exact congrArg some heq
    | _ => cases h
  | _ =>
    cases h
    rfl

mutual

/-- Values with one redacted text differ under redacted names only, if they differ in credentials only. -/
theorem alikeBut_of_stringify_redact : ∀ {value value' : Value}, AlikeBut CredentialDiffers value value' →
    stringify r (redactAuditValue r value) = stringify r (redactAuditValue r value') →
    AlikeBut Redacted value value'
  | .array items, .array items', h, heq => by
    simp only [redactAuditValue, stringify, Option.some.injEq, Json.array.injEq] at heq
    exact alikeItems_of_stringify_redact h heq
  | .object fields, .object fields', h, heq => by
    simp only [redactAuditValue, stringify, Option.some.injEq, Json.object.injEq] at heq
    exact ⟨h.1, alikeFields_of_stringify_redact h.1 h.2 heq⟩
  | .undefined, _, h, _ | .null, _, h, _ | .bool _, _, h, _ | .number _, _, h, _ | .string _, _, h, _
  | .date _, _, h, _ => by
    cases h
    exact rfl

theorem alikeItems_of_stringify_redact : ∀ {items items' : List Value}, AlikeItems CredentialDiffers items items' →
    stringifyItems r (redactItems r items) = stringifyItems r (redactItems r items') →
    AlikeItems Redacted items items'
  | [], [], _, _ => trivial
  | item :: rest, item' :: rest', h, heq => by
    rw [redactItems, redactItems, stringifyItems, stringifyItems, List.cons.injEq] at heq
    exact ⟨alikeBut_of_stringify_redact h.1 (stringify_of_getD h.1 heq.1), alikeItems_of_stringify_redact h.2 heq.2⟩

theorem alikeFields_of_stringify_redact : ∀ {fields fields' : Fields}, (fields.map Prod.fst).Nodup →
    AlikeFields CredentialDiffers fields fields' →
    stringifyFields r (redactFields r fields) = stringifyFields r (redactFields r fields') →
    AlikeFields Redacted fields fields'
  | [], [], _, _, _ => trivial
  | (key, child) :: rest, (_, child') :: rest', hnodup, ⟨rfl, hchild, h⟩, heq => by
    rw [List.map_cons, List.nodup_cons] at hnodup
    obtain ⟨hkey, hnodup⟩ := hnodup
    have hkeys := redactFields_keys (r := r) rest
    have hkeys' := redactFields_keys (r := r) rest'
    rw [redactFields, redactFields, stringifyFields_cons_inj (hkeys ▸ hkey) (hkeys' ▸ h.keys ▸ hkey)] at heq
    refine ⟨rfl, ?_, alikeFields_of_stringify_redact hnodup h heq.2⟩
    by_cases hlisted : key ∈ SENSITIVE_FIELD_NAMES
    · exact .inl hlisted
    · rw [if_neg hlisted, if_neg hlisted] at heq
      rcases hchild with ⟨-, hcredential, hcredential'⟩ | hchild
      · obtain rfl := isCredential_inj hcredential hcredential' heq.1
        exact .inr (alikeBut_of_isCredential hcredential)
      · exact .inr (alikeBut_of_stringify_redact hchild heq.1)

end

theorem stringify_redact_iff {value value' : Value} (h : AlikeBut CredentialDiffers value value') :
    stringify r (redactAuditValue r value) = stringify r (redactAuditValue r value') ↔ AlikeBut Redacted value value' :=
  ⟨alikeBut_of_stringify_redact h, stringify_redact⟩

end ComplianceHub.Audit
