import ComplianceHub.Lib.Replacement
import ComplianceHub.Tickets.KeywordRules
import Mathlib.Data.List.TakeWhile

/-!
# Texts for the AI providers

`KnowledgeBaseService` sends texts of tickets and queries to AI providers, most of them without the names and addresses
of the users.

* `stripSensitiveData`, `generateKbFromTicket`, `searchKnowledgeBase` : what is taken out, and the prompts that are sent;
* `Letters` : the same code over characters and over characters that are marked as given or as inserted (`requests_plain`);
* `Anonymous`, `Secure` : a text that shows no user, and a call that sends no other;
* `Scrubbable` : in a text each name stands between signs that regular expressions see, or is tied to a letter;
* `anonymous_of_scrubbable` : what is left of such a text is anonymous;
* `secure_iff` : a call with such texts is secure exactly if its query is not sent as it is and the users can be read.
-/

namespace ComplianceHub.Tickets.KnowledgeBase

open ComplianceHub.Lib.Replacement

/-! ## Expressions -/

/-- What the language knows about characters. -/
structure Characters where
  /-- How a regular expression compares a character where case is ignored. -/
  canonicalize : Char → Char
  isLetter : Char → Bool
  /-- The digits and signs of ASCII are only compared equal to themselves. -/
  canonicalize_sign : ∀ c d, d.toNat < 128 → d.isAlpha = false → canonicalize c = canonicalize d → c = d
  isLetter_ascii : ∀ c, c.isAlpha = true → isLetter c = true

/-- `\w` -/
def isWordChar (c : Char) : Bool := c.isAlphanum || c = '_'

/-- `\b` -/
def isBoundary (before after : Option Char) : Bool := before.any isWordChar != after.any isWordChar

/-- The same text in any letter case. -/
def Same (js : Characters) (a b : List Char) : Prop := a.map js.canonicalize = b.map js.canonicalize

instance (js : Characters) (a b : List Char) : Decidable (Same js a b) := inferInstanceAs (Decidable (_ = _))

/-- The text begins with the word. -/
def foundAt (js : Characters) (word text : List Char) : Bool := decide (Same js (text.take word.length) word)

/-- ``new RegExp(`\\b${escapeRegExp(word)}\\b`, 'gi')`` -/
def wholeWord (js : Characters) (word : List Char) : Pattern Char := fun before text =>
  if foundAt js word text ∧ isBoundary before text.head? ∧
      isBoundary (text.take word.length).getLast? (text.drop word.length).head? then some word.length
  else none

/-- `new RegExp(escapeRegExp(word), 'gi')` -/
def anywhere (js : Characters) (word : List Char) : Pattern Char := fun _ text =>
  if foundAt js word text then some word.length else none

def isLocalChar (c : Char) : Bool := c.isAlphanum || c ∈ ['.', '_', '%', '+', '-']

def isDomainChar (c : Char) : Bool := c.isAlphanum || c ∈ ['.', '-']

/-- `/[a-zA-Z0-9._%+-]+@[a-zA-Z0-9.-]+\.[a-zA-Z]{2,}/g` -/
def genericEmail : Pattern Char := fun _ =>
  plus isLocalChar (one (· = '@') (plus isDomainChar (one (· = '.') (one Char.isAlpha (plus Char.isAlpha done)))))

/-- `/\+?[0-9]{10,13}/g` -/
def phone : Pattern Char := fun _ => upTo (· = '+') (times Char.isDigit (upTo Char.isDigit done 3) 10) 1

/-! ## The service -/

/-- What a text is made of: its characters, those that are given and those that are put in. -/
structure Letters (α : Type) where
  char : α → Char
  given : Char → α
  inserted : Char → α
  char_given : ∀ c, char (given c) = c
  char_inserted : ∀ c, char (inserted c) = c

def plain : Letters Char := ⟨id, id, id, fun _ => rfl, fun _ => rfl⟩

/-- Characters with whether they are given. -/
def marked : Letters (Char × Bool) := ⟨Prod.fst, fun c => (c, true), fun c => (c, false), fun _ => rfl, fun _ => rfl⟩

/-- The columns read of `users`. -/
structure UserRow where
  firstName : Option String := none
  middleName : Option String := none
  lastName : Option String := none
  suffix : Option String := none
  email : String
deriving DecidableEq, Repr

structure KnowledgeArticle where
  id : Nat
  title : String
  content : String
  tags : Option String := none
deriving DecidableEq, Repr

/-- A piece of a prompt. -/
inductive Part (α : Type) where
  | written (text : String)
  | given (text : List α)

inductive Provider where
  | groq
  | cloudflare (model : String)
deriving DecidableEq, Repr

structure Request (α : Type) where
  provider : Provider
  prompt : List (Part α)

/-- The configuration, the tables, and what becomes of the lookups and requests of a call. -/
structure Service where
  groq : Bool := false
  cloudflare : Bool := false
  users : List UserRow := []
  /-- The lookups of the users that succeed. -/
  readable : Nat → Bool := fun _ => true
  articles : Option (List KnowledgeArticle) := some []
  groqAnswers : Bool := true
  /-- The models that are asked before one answers. -/
  asked : List String := []

section
variable {α : Type} (js : Characters) (letters : Letters α)

/-- A word of more than so many characters is taken out. -/
def wordRemoval (longerThan : Nat) (word : Option String) : List (Step α Char) :=
  (word.filter fun word => longerThan < (units word).length).toList.map fun word =>
    { pattern := wholeWord js word.toList, inserted := "[NAME_REMOVED]".toList.map letters.inserted }

def emailRemoval (email : String) : List (Step α Char) :=
  if 5 < (units email).length then
    [{ pattern := anywhere js email.toList, inserted := "[EMAIL_REMOVED]".toList.map letters.inserted }]
  else []

def userRemovals (user : UserRow) : List (Step α Char) :=
  wordRemoval js letters 2 user.firstName ++ wordRemoval js letters 2 user.middleName ++
    wordRemoval js letters 2 user.lastName ++ wordRemoval js letters 1 user.suffix ++ emailRemoval js letters user.email

def genericRemovals : List (Step α Char) :=
  [{ pattern := genericEmail, inserted := "[EMAIL_REMOVED]".toList.map letters.inserted },
    { pattern := phone, inserted := "[PHONE_REMOVED]".toList.map letters.inserted }]

/-- Very basic regex-based stripping of sensitive data before prompt; `users` is none if the lookup fails. -/
def stripSensitiveData (users : Option (List UserRow)) (text : List α) (requireUserLookup : Bool := false) :
    Option (List α) :=
  match text with
  | [] => some []
  | _ :: _ =>
    match users with
    | some users => some (run letters.char (users.flatMap (userRemovals js letters) ++ genericRemovals letters) text)
    | none => if requireUserLookup then none else some (run letters.char (genericRemovals letters) text)

/-- `trim` -/
def trimText (text : List α) : List α :=
  ((text.dropWhile fun a => isSpace (letters.char a)).reverse.dropWhile fun a => isSpace (letters.char a)).reverse

def Service.lookup (s : Service) (n : Nat) : Option (List UserRow) := if s.readable n then some s.users else none

/-- Every model that is asked is sent the prompt. -/
def requestCloudflare (s : Service) (prompt : List (Part α)) : List (Request α) :=
  s.asked.map fun model => ⟨.cloudflare model, prompt⟩

def articleInstructions : List String := [
  "Create a practical, human-readable technical knowledge base article from this resolved support ticket.",
  "Return only valid JSON with exactly these fields: title, content, tags.",
  "Use a specific root-cause or task-oriented title under 255 characters; do not copy a vague ticket subject unchanged.",
  "The content must use this exact Markdown structure: **Problem:**, **Solution:**, and **Result:**.",
  "Problem must explain the symptom and likely cause in one clear paragraph.",
  "Solution must be a numbered list. Give every step a short bold action title followed by a clear instruction.",
  "Result must state the expected outcome and how the reader can verify success.",
  "Rewrite brief resolution notes into complete, understandable instructions, but never invent unsupported commands or " ++
    "technical facts.",
  "Preserve every exact command, menu path, registry path, filename, and configuration value supplied by the ticket.",
  "Generalize personal names, usernames, machine names, and office locations.",
  "Tags must be a comma-separated list of 3 to 7 concise technical topics, not JSON arrays.",
  "Do not include personal names, email addresses, locations, credentials, or other sensitive data."]

def articlePrompt (cleanSubject cleanDescription cleanResolution : List α) : List (Part α) := [
  .written ("\n".intercalate articleInstructions ++ "\nSubject: "), .given (trimText letters cleanSubject),
  .written "\nDescription: ", .given (trimText letters cleanDescription),
  .written "\nResolution Notes: ", .given (trimText letters cleanResolution)]

def generateKbFromTicket (s : Service) (subject description resolutionNotes : List Char) : List (Request α) :=
  if s.cloudflare then
    let sent := do
      let cleanSubject ← stripSensitiveData js letters (s.lookup 0) (subject.map letters.given)
      let cleanDescription ← stripSensitiveData js letters (s.lookup 1) (description.map letters.given)
      let cleanResolution ← stripSensitiveData js letters (s.lookup 2) (resolutionNotes.map letters.given)
      pure (requestCloudflare s (articlePrompt letters cleanSubject cleanDescription cleanResolution))
    sent.getD []
  else []

def keywordPrompt (cleanQuery : List α) : List (Part α) := [
  .written ("\n".intercalate [
    "Extract up to eight precise technical search keywords from this support issue.",
    "Return only valid JSON in this format: \x7b\"keywords\":[\"keyword one\",\"keyword two\"]\x7d.",
    "Do not include names, email addresses, locations, credentials, or other sensitive data.",
    "Support issue: "]), .given (trimText letters cleanQuery)]

def searchWithCloudflare (s : Service) (query : List Char) : List (Request α) :=
  if s.cloudflare then
    let sent := do
      let cleanQuery ← stripSensitiveData js letters (s.lookup 0) (query.map letters.given)
      pure (requestCloudflare s (keywordPrompt letters cleanQuery))
    sent.getD []
  else []

def kbText (kb : KnowledgeArticle) : String :=
  "ID: " ++ toString kb.id ++ "\nTitle: " ++ kb.title ++ "\nTags: " ++ (kb.tags.filter (· ≠ "")).getD "None" ++
    "\nContent: " ++ kb.content ++ "\n---"

def groqPrompt (query : List Char) (allKbs : List KnowledgeArticle) : List (Part α) := [
  .written "\nGiven the user's issue description: \"", .given (query.map letters.given),
  .written ("\"\nWhich of the following Knowledge Base articles are HIGHLY relevant and helpful to solve this exact issue?\n" ++
    "List the IDs of the top 3 most relevant articles as a JSON object containing an array of numbers under the key \"ids\".\n" ++
    "CRITICAL: Do NOT guess. If the issue description is vague (e.g., \"Test 2\"), or if there are no articles that directly " ++
    "and explicitly address the problem, you MUST output an empty array for \"ids\".\n\nArticles:\n" ++
    "\n".intercalate (allKbs.map kbText) ++ "\n\nOutput strictly JSON:\n\x7b \"ids\": [1, 2, 3] \x7d\n")]

def searchKnowledgeBase (s : Service) (query : List Char) : List (Request α) :=
  match if s.groq then s.articles else none with
  | some allKbs =>
    ⟨.groq, groqPrompt letters query allKbs⟩ :: if s.groqAnswers then [] else searchWithCloudflare js letters s query
  | none => searchWithCloudflare js letters s query

inductive Call where
  | generateKbFromTicket (subject description resolutionNotes : List Char)
  | searchKnowledgeBase (query : List Char)
deriving DecidableEq, Repr

/-- What a call sends. -/
def requests (s : Service) : Call → List (Request α)
  | .generateKbFromTicket subject description resolutionNotes =>
    generateKbFromTicket js letters s subject description resolutionNotes
  | .searchKnowledgeBase query => searchKnowledgeBase js letters s query

end

/-! ## Privacy -/

def registeredNames (users : List UserRow) : List String :=
  users.flatMap fun user => [user.firstName, user.middleName, user.lastName].filterMap id

/-- What stands between the two sides is delimited by non-letters. -/
structure Delimited (js : Characters) (left right : List Char) : Prop where
  before : ∀ c ∈ left.getLast?, js.isLetter c = false
  after : ∀ c ∈ right.head?, js.isLetter c = false

/-- A text has no address of a user, nor a name among the characters given. -/
structure Anonymous (js : Characters) (users : List UserRow) (text : List (Char × Bool)) : Prop where
  noEmail : ∀ user ∈ users, ∀ left part right, text = left ++ part ++ right →
    ¬ Same js (part.map Prod.fst) user.email.toList
  noName : ∀ name ∈ registeredNames users, 2 < (units name).length → ∀ left part right, text = left ++ part ++ right →
    (∀ a ∈ part, a.2 = true) → Same js (part.map Prod.fst) name.toList →
      ¬ Delimited js (left.map Prod.fst) (right.map Prod.fst)

/-- A word that begins and ends with characters of a regular expression's word, and stands between others. -/
structure Bounded (left part right : List Char) : Prop where
  first : part.head?.any isWordChar = true
  last : part.getLast?.any isWordChar = true
  before : left.getLast?.any isWordChar = false
  after : right.head?.any isWordChar = false

/-- A word that continues a word before it, from which no address of a user parts it. -/
structure TiedLeft (js : Characters) (users : List UserRow) (left part : List Char) : Prop where
  before : left.getLast?.any Char.isAlpha = true
  first : part.head?.any Char.isAlpha = true
  noEmail : ∀ user ∈ users, ∀ init own, left = init ++ own → ¬ Same js own user.email.toList

/-- A word that goes on after it, where no address of a user begins. -/
structure TiedRight (js : Characters) (users : List UserRow) (part right : List Char) : Prop where
  last : part.getLast?.any isWordChar = true
  after : right.head?.any Char.isAlpha = true
  noEmail : ∀ user ∈ users, ∀ own rest, right = own ++ rest → ¬ Same js own user.email.toList

structure IsAddress (email : String) : Prop where
  at_mem : '@' ∈ email.toList
  open_not_mem : '[' ∉ email.toList
  close_not_mem : ']' ∉ email.toList

/-- A text whose names the regular expressions see. -/
structure Scrubbable (js : Characters) (users : List UserRow) (text : List Char) : Prop where
  address : ∀ user ∈ users, IsAddress user.email
  short : ∀ user ∈ users, (units user.email).length ≤ 5 → ∀ left part right, text = left ++ part ++ right →
    ¬ Same js part user.email.toList
  name : ∀ name ∈ registeredNames users, 2 < (units name).length → ∀ left part right, text = left ++ part ++ right →
    Same js part name.toList → Bounded left part right ∨ TiedLeft js users left part ∨ TiedRight js users part right

/-! ## What the removals leave -/

section
variable {js : Characters} {users : List UserRow} {a b : List Char} {c : Char}

theorem Same.length_eq (h : Same js a b) : a.length = b.length := by
  simpa using congrArg List.length h

theorem isWordChar_of_isAlpha (h : c.isAlpha = true) : isWordChar c = true := by
  simp [isWordChar, Char.isAlphanum, h]

theorem isLocalChar_of_isWordChar (h : isWordChar c = true) : isLocalChar c = true := by
  unfold isWordChar at h
  unfold isLocalChar
  rcases Bool.or_eq_true_iff.mp h with h | h
  · simp [h]
  · obtain rfl := of_decide_eq_true h
    decide

theorem toNat_of_isLower (h : c.isLower = true) : 97 ≤ c.toNat ∧ c.toNat ≤ 122 := by
  obtain ⟨hfirst, hlast⟩ := Bool.and_eq_true_iff.mp h
  exact ⟨of_decide_eq_true hfirst, of_decide_eq_true hlast⟩

theorem toNat_of_isAlpha (h : c.isAlpha = true) : 65 ≤ c.toNat ∧ c.toNat ≤ 90 ∨ 97 ≤ c.toNat ∧ c.toNat ≤ 122 := by
  rcases Bool.or_eq_true_iff.mp (show (c.isUpper || c.isLower) = true from h) with h | h
  · exact .inl (of_decide_eq_true h)
  · exact .inr (toNat_of_isLower h)

theorem not_isDigit_of_isAlpha (h : c.isAlpha = true) : c.isDigit = false := by
  have hletter := toNat_of_isAlpha h
  rw [← Bool.not_eq_true, Char.isDigit_iff_toNat]
  simp only [Char.reduceToNat]
  omega

/-- A sign in a text is one in a text that differs in letter case. -/
theorem mem_of_same (h : Same js a b) (hc : c.toNat < 128) (halpha : c.isAlpha = false) : c ∈ a ↔ c ∈ b := by
  have hkey (l : List Char) : c ∈ l ↔ js.canonicalize c ∈ l.map js.canonicalize := by
    refine ⟨List.mem_map_of_mem, fun hmem => ?_⟩
    obtain ⟨d, hd, hsame⟩ := List.mem_map.mp hmem
    rwa [← js.canonicalize_sign d c hc halpha hsame]
  rw [hkey a, hkey b, show a.map _ = b.map _ from h]

theorem wholeWord_eq_some {word text : List Char} {before : Option Char} {n : Nat} :
    wholeWord js word before text = some n ↔ (Same js (text.take word.length) word ∧ isBoundary before text.head? = true ∧
      isBoundary (text.take word.length).getLast? (text.drop word.length).head? = true) ∧ word.length = n := by
  simp [wholeWord, foundAt]

theorem anywhere_eq_some {word text : List Char} {before : Option Char} {n : Nat} :
    anywhere js word before text = some n ↔ Same js (text.take word.length) word ∧ word.length = n := by
  simp [anywhere, foundAt]

theorem phone_of_isAlpha {before : Option Char} {rest : List Char} (h : c.isAlpha = true) :
    phone before (c :: rest) = none := by
  have hplus : c ≠ '+' := by
    rintro rfl
    simp at h
  simp [phone, upTo, times, one, hplus, not_isDigit_of_isAlpha h]

theorem isDigit_of_phone {before : Option Char} {text : List Char} {n : Nat} (h : phone before text = some (n + 1))
    (hc : text[n]? = some c) : c.isDigit = true := by
  have hdigits : EndsWith Char.isDigit (times Char.isDigit (upTo Char.isDigit done 3) 9) :=
    endsWith_times (fun _ h => h) (endsWith_upTo (fun _ h => h) endsWith_done 3) 9
  rcases Option.or_eq_some_iff.mp h with h | ⟨-, h⟩
  · cases text with
    | nil => simp [one] at h
    | cons d rest =>
      obtain ⟨-, k, hk, hn⟩ := one_eq_some.mp h
      obtain rfl : k = n := Nat.succ.inj hn
      cases k with
      | zero =>
        cases rest with
        | nil => simp [upTo, times, one] at hk
        | cons e rest =>
          obtain ⟨-, j, -, hj⟩ := one_eq_some.mp hk
          simp at hj
      | succ k => exact endsWith_one_first (fun _ h => h) hdigits hk hc
  · exact endsWith_one_first (fun _ h => h) hdigits h hc

/-- The brackets around what is put in. -/
def isBracket (a : Char × Bool) : Prop := a.1 = '[' ∨ a.1 = ']'

def removals (js : Characters) (users : List UserRow) : List (Step (Char × Bool) Char) :=
  users.flatMap (userRemovals js marked) ++ genericRemovals marked

/-- The expressions that are replaced. -/
inductive Removal (js : Characters) (users : List UserRow) : Pattern Char → Prop
  | word {word : List Char} : word ≠ [] → Removal js users (wholeWord js word)
  | email {user : UserRow} : user ∈ users → Removal js users (anywhere js user.email.toList)
  | genericEmail : Removal js users genericEmail
  | phone : Removal js users phone

def placeholders : List String := ["[NAME_REMOVED]", "[EMAIL_REMOVED]", "[PHONE_REMOVED]"]

variable {s : Step (Char × Bool) Char}

theorem mem_wordRemoval {longerThan : Nat} {word : Option String} : s ∈ wordRemoval js marked longerThan word ↔
    ∃ own, word = some own ∧ longerThan < (units own).length ∧
      s = { pattern := wholeWord js own.toList, inserted := "[NAME_REMOVED]".toList.map marked.inserted } := by
  unfold wordRemoval
  rw [List.mem_map]
  simp only [Option.mem_toList, Option.filter_eq_some_iff, decide_eq_true_eq]
  constructor
  · rintro ⟨own, ⟨hword, hlong⟩, hs⟩
    exact ⟨own, hword, hlong, hs.symm⟩
  · rintro ⟨own, hword, hlong, hs⟩
    exact ⟨own, ⟨hword, hlong⟩, hs.symm⟩

theorem removal_of_wordRemoval {longerThan : Nat} {word : Option String} (hs : s ∈ wordRemoval js marked longerThan word) :
    Removal js users s.pattern ∧ ∃ text ∈ placeholders, s.inserted = text.toList.map marked.inserted := by
  obtain ⟨own, -, hlong, rfl⟩ := mem_wordRemoval.mp hs
  refine ⟨.word fun hnil => ?_, _, List.mem_cons_self, rfl⟩
  unfold units at hlong
  rw [hnil] at hlong
  simp at hlong

theorem removal_of_mem (hs : s ∈ removals js users) :
    Removal js users s.pattern ∧ ∃ text ∈ placeholders, s.inserted = text.toList.map marked.inserted := by
  rcases List.mem_append.mp hs with hs | hs
  · obtain ⟨user, huser, hs⟩ := List.mem_flatMap.mp hs
    unfold userRemovals at hs
    simp only [List.mem_append] at hs
    rcases hs with (((hs | hs) | hs) | hs) | hs
    · exact removal_of_wordRemoval hs
    · exact removal_of_wordRemoval hs
    · exact removal_of_wordRemoval hs
    · exact removal_of_wordRemoval hs
    · unfold emailRemoval at hs
      split_ifs at hs
      · obtain rfl := List.mem_singleton.mp hs
        exact ⟨.email huser, "[EMAIL_REMOVED]", by decide, rfl⟩
      · simp at hs
  · unfold genericRemovals at hs
    rcases List.mem_cons.mp hs with rfl | hs
    · exact ⟨.genericEmail, "[EMAIL_REMOVED]", by decide, rfl⟩
    · obtain rfl := List.mem_singleton.mp hs
      exact ⟨.phone, "[PHONE_REMOVED]", by decide, rfl⟩

theorem mem_removals {user : UserRow} (huser : user ∈ users) (hs : s ∈ userRemovals js marked user) :
    s ∈ removals js users := List.mem_append_left _ (List.mem_flatMap.mpr ⟨user, huser, hs⟩)

/-- Every name that is long enough is taken out as a word. -/
theorem exists_nameRemoval (js : Characters) {name : String} (hname : name ∈ registeredNames users) (hlong : 2 < (units name).length) :
    ∃ s ∈ removals js users, s.pattern = wholeWord js name.toList := by
  obtain ⟨user, huser, hname⟩ := List.mem_flatMap.mp hname
  rw [List.mem_filterMap] at hname
  obtain ⟨column, hcolumn, rfl : column = some name⟩ := hname
  have hstep : { pattern := wholeWord js name.toList, inserted := "[NAME_REMOVED]".toList.map marked.inserted } ∈
      wordRemoval js marked 2 (some name) := mem_wordRemoval.mpr ⟨name, rfl, hlong, rfl⟩
  have hmem : { pattern := wholeWord js name.toList, inserted := "[NAME_REMOVED]".toList.map marked.inserted } ∈
      userRemovals js marked user := by
    unfold userRemovals
    simp only [List.mem_append]
    simp only [List.mem_cons, List.not_mem_nil, or_false] at hcolumn
    rcases hcolumn with hcolumn | hcolumn | hcolumn
    · exact .inl (.inl (.inl (.inl (hcolumn ▸ hstep))))
    · exact .inl (.inl (.inl (.inr (hcolumn ▸ hstep))))
    · exact .inl (.inl (.inr (hcolumn ▸ hstep)))
  exact ⟨_, mem_removals huser hmem, rfl⟩

/-- Every address that is long enough is taken out. -/
theorem exists_emailRemoval (js : Characters) {user : UserRow} (huser : user ∈ users) (hlong : 5 < (units user.email).length) :
    ∃ s ∈ removals js users, s.pattern = anywhere js user.email.toList := by
  have hmem : { pattern := anywhere js user.email.toList, inserted := "[EMAIL_REMOVED]".toList.map marked.inserted } ∈
      userRemovals js marked user := by
    unfold userRemovals emailRemoval
    rw [if_pos hlong]
    exact List.mem_append_right _ List.mem_cons_self
  exact ⟨_, mem_removals huser hmem, rfl⟩

theorem mem_inserted (hs : s ∈ removals js users) {a : Char × Bool} (ha : a ∈ s.inserted) : a.2 = false ∧ a.1 ≠ '@' := by
  obtain ⟨-, text, htext, hinserted⟩ := removal_of_mem hs
  rw [hinserted] at ha
  obtain ⟨c, hc, rfl⟩ := List.mem_map.mp ha
  refine ⟨rfl, ?_⟩
  rintro rfl
  have hnone : ∀ text ∈ placeholders, '@' ∉ text.toList := by decide +kernel
  exact hnone text htext hc

theorem fenced_inserted (hs : s ∈ removals js users) : Fenced isBracket s.inserted := by
  obtain ⟨-, text, htext, hinserted⟩ := removal_of_mem hs
  have hends : ∀ text ∈ placeholders, text.toList.head? = some '[' ∧ text.toList.getLast? = some ']' := by decide +kernel
  obtain ⟨hfirst, hlast⟩ := hends text htext
  obtain ⟨rest, hrest⟩ := List.head?_eq_some_iff.mp hfirst
  obtain ⟨init, hinit⟩ := List.getLast?_eq_some_iff.mp hlast
  constructor
  · exact ⟨('[', false), rest.map marked.inserted, by rw [hinserted, hrest]; rfl, .inl rfl⟩
  · exact ⟨init.map marked.inserted, (']', false), by rw [hinserted, hinit, List.map_append]; rfl, .inr rfl⟩

section
variable {part left right left' right' : List (Char × Bool)}

/-- Only a bracket or what was there before stands before the part. -/
theorem not_isWordChar_before {left₁ right₁ : List (Char × Bool)} (hshows : Shows isBracket left right left₁ right₁)
    (h : (left.map Prod.fst).getLast?.any isWordChar = false) : (endOf Prod.fst none left₁).any isWordChar = false := by
  rcases List.eq_nil_or_concat' left₁ with rfl | ⟨init, a, rfl⟩
  · rfl
  · rw [endOf_concat]
    show isWordChar a.1 = false
    by_cases ha : isBracket a
    · rcases ha with ha | ha
      · rw [ha]
        decide
      · rw [ha]
        decide
    · obtain ⟨own, rfl⟩ := hshows.onLeft [a] (fun b hb => by rwa [List.mem_singleton.mp hb]) (List.suffix_append init [a])
      rwa [List.map_append, List.map_singleton, List.getLast?_concat] at h

theorem not_isWordChar_after {left₁ right₁ : List (Char × Bool)} (hshows : Shows isBracket left right left₁ right₁)
    (h : (right.map Prod.fst).head?.any isWordChar = false) : (right₁.map Prod.fst).head?.any isWordChar = false := by
  cases right₁ with
  | nil => rfl
  | cons a rest =>
    show isWordChar a.1 = false
    by_cases ha : isBracket a
    · rcases ha with ha | ha
      · rw [ha]
        decide
      · rw [ha]
        decide
    · obtain ⟨own, rfl⟩ := hshows.onRight [a] (fun b hb => by rwa [List.mem_singleton.mp hb]) ⟨rest, rfl⟩
      exact h

/-- A bounded name is taken out. -/
theorem not_bounded (hstays : StaysThrough Prod.fst isBracket part (removals js users) left right left' right')
    {name : String} (hname : name ∈ registeredNames users) (hlong : 2 < (units name).length)
    (hsame : Same js (part.map Prod.fst) name.toList) :
    ¬ Bounded (left.map Prod.fst) (part.map Prod.fst) (right.map Prod.fst) := by
  intro hbounded
  obtain ⟨s, hs, hpattern⟩ := exists_nameRemoval js hname hlong
  obtain ⟨left₁, right₁, left₂, right₂, hshows, hstay⟩ := hstays.of_mem (fun s hs => fenced_inserted hs) hs
  cases part with
  | nil => exact absurd hbounded.first (by simp)
  | cons a rest =>
    have hlength : (a :: rest).length = name.toList.length := by simpa using hsame.length_eq
    have hunmatched := hstay.unmatched [] a rest rfl rest.length
    rw [hpattern, List.append_nil] at hunmatched
    refine hunmatched (wholeWord_eq_some.mpr ⟨?_, hlength.symm⟩)
    rw [← hlength, List.map_append, List.take_left' (List.length_map ..), List.drop_left' (List.length_map ..)]
    refine ⟨hsame, ?_, ?_⟩
    · unfold isBoundary
      rw [not_isWordChar_before hshows hbounded.before]
      show (false != isWordChar a.1) = true
      rw [show isWordChar a.1 = true from hbounded.first]
      rfl
    · unfold isBoundary
      rw [not_isWordChar_after hshows hbounded.after, hbounded.last]
      rfl

/-- An address without brackets was there before what is put in. -/
theorem clear_of_same {email : String} (haddress : IsAddress email) (hsame : Same js (part.map Prod.fst) email.toList) :
    Clear isBracket part := by
  rintro a ha hbracket
  have hmem : a.1 ∈ part.map Prod.fst := List.mem_map_of_mem ha
  rcases hbracket with hbracket | hbracket
  · rw [hbracket] at hmem
    exact haddress.open_not_mem ((mem_of_same hsame (by decide) (by decide)).mp hmem)
  · rw [hbracket] at hmem
    exact haddress.close_not_mem ((mem_of_same hsame (by decide) (by decide)).mp hmem)

/-- A letter that a name goes on with stays behind it. -/
theorem exists_letter_after (haddress : ∀ user ∈ users, IsAddress user.email)
    (hstays : StaysThrough Prod.fst isBracket part (removals js users) left right left' right')
    (htied : TiedRight js users (part.map Prod.fst) (right.map Prod.fst)) :
    ∃ a rest, right' = a :: rest ∧ a.1.isAlpha = true := by
  cases right with
  | nil => exact absurd htied.after (by simp)
  | cons b rest =>
    have hletter : b.1.isAlpha = true := htied.after
    have hpart : part ≠ [] := by
      rintro rfl
      exact absurd htied.last (by simp)
    obtain ⟨rest', hrest⟩ : ∃ rest', right' = b :: rest' := by
      refine hstays.right_first (fun s hs => fenced_inserted hs) ⟨rest, rfl⟩ ?_
      intro s hs left₁ rest₁ left₂ right₂ hshows hstay n hmatch
      obtain ⟨init, a, rfl⟩ := (List.eq_nil_or_concat' part).resolve_left hpart
      have hlast : isWordChar a.1 = true := by
        have hany := htied.last
        rwa [List.map_append, List.map_singleton, List.getLast?_concat] at hany
      have hunmatched := hstay.unmatched init a [] rfl
      have hend : endOf Prod.fst none (left₁ ++ (init ++ [a])) = some a.1 := by
        rw [← List.append_assoc, endOf_concat]
      rw [hend] at hmatch
      generalize hp : s.pattern = pattern at hmatch hunmatched
      have hkind : Removal js users pattern := hp ▸ (removal_of_mem hs).1
      cases hkind with
      | word hword =>
        obtain ⟨⟨-, hboundary, -⟩, -⟩ := wholeWord_eq_some.mp hmatch
        unfold isBoundary at hboundary
        simp [hlast, isWordChar_of_isAlpha hletter] at hboundary
      | @email user huser =>
        obtain ⟨hsame, -⟩ := anywhere_eq_some.mp hmatch
        rw [← List.map_take] at hsame
        obtain ⟨own, hown⟩ := hshows.onRight _ (clear_of_same (haddress user huser) hsame) (List.take_prefix ..)
        refine htied.noEmail user huser _ (own.map Prod.fst) ?_ hsame
        rw [← hown, List.map_append]
      | genericEmail => exact hunmatched (n + 1) (plus_cons (isLocalChar_of_isWordChar hlast) hmatch)
      | phone =>
        rw [List.map_cons, phone_of_isAlpha hletter] at hmatch
        simp at hmatch
    exact ⟨b, rest', hrest, hletter⟩

/-- A letter that a name continues stays before it. -/
theorem exists_letter_before (haddress : ∀ user ∈ users, IsAddress user.email)
    (hstays : StaysThrough Prod.fst isBracket part (removals js users) left right left' right')
    (htied : TiedLeft js users (left.map Prod.fst) (part.map Prod.fst)) :
    ∃ a, left'.getLast? = some a ∧ a.1.isAlpha = true := by
  rcases List.eq_nil_or_concat' left with rfl | ⟨init, b, rfl⟩
  · exact absurd htied.before (by simp)
  · have hletter : b.1.isAlpha = true := by
      have hany := htied.before
      rwa [List.map_append, List.map_singleton, List.getLast?_concat] at hany
    refine ⟨b, hstays.left_last (fun s hs => fenced_inserted hs) List.getLast?_concat ?_, hletter⟩
    intro s hs init₁ block right₁ c hshows hblock hmatch
    obtain ⟨block, rfl⟩ := List.getLast?_eq_some_iff.mp hblock
    cases part with
    | nil => exact absurd htied.first (by simp)
    | cons a rest =>
      have hfirst : a.1.isAlpha = true := htied.first
      rw [List.append_assoc, List.map_append] at hmatch
      have hlength : ((block ++ [b]).map Prod.fst).length = (block ++ [b]).length := List.length_map ..
      have htext : ((block ++ [b]).map Prod.fst ++ (a :: rest ++ right₁).map Prod.fst)[(block ++ [b]).length]? =
          some a.1 := by
        rw [List.getElem?_append_right (Nat.le_of_eq hlength), hlength, Nat.sub_self]
        rfl
      generalize hp : s.pattern = pattern at hmatch
      have hkind : Removal js users pattern := hp ▸ (removal_of_mem hs).1
      cases hkind with
      | @word word hword =>
        obtain ⟨⟨-, -, hboundary⟩, hword⟩ := wholeWord_eq_some.mp hmatch
        rw [hword, List.take_left' hlength, List.drop_left' hlength, List.map_append, List.map_singleton,
          List.getLast?_concat] at hboundary
        unfold isBoundary at hboundary
        simp [isWordChar_of_isAlpha hfirst, isWordChar_of_isAlpha hletter] at hboundary
      | @email user huser =>
        obtain ⟨hsame, hown⟩ := anywhere_eq_some.mp hmatch
        rw [hown, List.take_left' hlength] at hsame
        obtain ⟨own, hown⟩ := hshows.onLeft _ (clear_of_same (haddress user huser) hsame) (List.suffix_append ..)
        refine htied.noEmail user huser (own.map Prod.fst) _ ?_ hsame
        rw [← hown, List.map_append]
      | genericEmail =>
        have hstops : StopsAt Char.isAlpha (genericEmail c) :=
          stopsAt_plus (stopsAt_one (stopsAt_plus (stopsAt_one (stopsAt_one stopsAt_plus_done))))
        rw [hstops _ _ a.1 hmatch htext] at hfirst
        exact absurd hfirst (by simp)
      | phone =>
        rw [List.length_append] at hmatch
        have hdigit := isDigit_of_phone (c := b.1) hmatch (by simp)
        rw [not_isDigit_of_isAlpha hletter] at hdigit
        exact absurd hdigit (by simp)

theorem chars_given {text : List Char} : (text.map marked.given).map marked.char = text := by
  rw [List.map_map]
  exact List.map_id' text

/-- The part of the text that was given and that a part of the result is. -/
theorem exists_sides {text : List Char} (h : run Prod.fst (removals js users) (text.map marked.given) =
    left' ++ part ++ right') (hne : part ≠ []) (hgiven : ∀ a ∈ part, a.2 = true) : ∃ left right,
      text = left.map Prod.fst ++ part.map Prod.fst ++ right.map Prod.fst ∧
        StaysThrough Prod.fst isBracket part (removals js users) left right left' right' := by
  have hpart (s : Step (Char × Bool) Char) (hs : s ∈ removals js users) (a : Char × Bool) (ha : a ∈ part) :
      a ∉ s.inserted := fun hinserted => by
    have hfalse := (mem_inserted hs hinserted).1
    rw [hgiven a ha] at hfalse
    exact absurd hfalse (by simp)
  obtain ⟨left, right, htext, hstays⟩ := exists_staysThrough (fun s hs => fenced_inserted hs) hne hpart h
  refine ⟨left, right, ?_, hstays⟩
  rw [← List.map_append, ← List.map_append, ← htext]
  exact chars_given.symm

/-- A name that is left is tied to a letter that is left. -/
theorem tied_of_scrubbable {text : List Char} (hscrubbable : Scrubbable js users text)
    (h : run Prod.fst (removals js users) (text.map marked.given) = left' ++ part ++ right')
    (hgiven : ∀ a ∈ part, a.2 = true) {name : String} (hname : name ∈ registeredNames users)
    (hlong : 2 < (units name).length) (hsame : Same js (part.map Prod.fst) name.toList) :
    (∃ a, left'.getLast? = some a ∧ a.1.isAlpha = true) ∨ ∃ a rest, right' = a :: rest ∧ a.1.isAlpha = true := by
  have hne : part ≠ [] := by
    rintro rfl
    have hnil : name.toList = [] := List.eq_nil_of_length_eq_zero hsame.length_eq.symm
    unfold units at hlong
    rw [hnil] at hlong
    simp at hlong
  obtain ⟨left, right, htext, hstays⟩ := exists_sides h hne hgiven
  rcases hscrubbable.name name hname hlong _ _ _ htext hsame with hbounded | htied | htied
  · exact absurd hbounded (not_bounded hstays hname hlong hsame)
  · exact .inl (exists_letter_before hscrubbable.address hstays htied)
  · exact .inr (exists_letter_after hscrubbable.address hstays htied)

/-- No address is left. -/
theorem no_email_of_scrubbable {text : List Char} (hscrubbable : Scrubbable js users text) {user : UserRow}
    (huser : user ∈ users) (h : run Prod.fst (removals js users) (text.map marked.given) = left' ++ part ++ right') :
    ¬ Same js (part.map Prod.fst) user.email.toList := by
  intro hsame
  have haddress := hscrubbable.address user huser
  -- its sign is given, and so is what stands around it without brackets
  have hsign : '@' ∈ part.map Prod.fst := (mem_of_same hsame (by decide) (by decide)).mpr haddress.at_mem
  obtain ⟨a, ha, hat⟩ := List.mem_map.mp hsign
  obtain ⟨before, after, rfl⟩ := List.append_of_mem ha
  have hclear := clear_of_same haddress hsame
  have haround : run Prod.fst (removals js users) (text.map marked.given) = (left' ++ before) ++ [a] ++ (after ++ right') := by
    rw [h]
    simp
  obtain ⟨left, right, htext, hstays⟩ := exists_staysThrough (fun s hs => fenced_inserted hs) (by simp)
    (fun s hs b hb hinserted => (mem_inserted hs hinserted).2 (by rw [List.mem_singleton.mp hb, hat])) haround
  have hshows := hstays.shows fun s hs => fenced_inserted hs
  obtain ⟨init, rfl⟩ := hshows.onLeft before (fun b hb => hclear b (List.mem_append_left _ hb)) (List.suffix_append ..)
  obtain ⟨rest, rfl⟩ := hshows.onRight after
    (fun b hb => hclear b (List.mem_append_right _ (List.mem_cons_of_mem a hb))) (List.prefix_append ..)
  have hgiven : ∀ b ∈ before ++ a :: after, b.2 = true := by
    intro b hb
    have hmem : b ∈ text.map marked.given := by
      rw [htext]
      simp only [List.mem_append, List.mem_cons] at hb ⊢
      tauto
    obtain ⟨c, -, rfl⟩ := List.mem_map.mp hmem
    rfl
  obtain ⟨left, right, htext, hstays⟩ := exists_sides h (by simp) hgiven
  by_cases hlong : 5 < (units user.email).length
  · obtain ⟨s, hs, hpattern⟩ := exists_emailRemoval js huser hlong
    obtain ⟨left₁, right₁, left₂, right₂, -, hstay⟩ := hstays.of_mem (fun s hs => fenced_inserted hs) hs
    have hlength : ((before ++ a :: after).map Prod.fst).length = user.email.toList.length := hsame.length_eq
    cases hpart : before ++ a :: after with
    | nil => simp at hpart
    | cons b own =>
      rw [hpart] at hsame hlength
      have hunmatched := hstay.unmatched [] b own hpart own.length
      rw [hpattern] at hunmatched
      refine hunmatched (anywhere_eq_some.mpr ⟨?_, ?_⟩)
      · rw [List.map_append, List.take_left' hlength]
        exact hsame
      · rw [← hlength, List.length_map, List.length_cons]
  · exact hscrubbable.short user huser (Nat.le_of_not_lt hlong) _ _ _ htext hsame

end

/-! ## What is sent -/

section
variable {α : Type} {letters : Letters α}

theorem run_nil {steps : List (Step α Char)} : run letters.char steps [] = [] := by
  induction steps with
  | nil => rfl
  | cons s steps ih => exact ih

theorem stripSensitiveData_eq {text : List α} {required : Bool} : stripSensitiveData js letters (some users) text required =
    some (run letters.char (users.flatMap (userRemovals js letters) ++ genericRemovals letters) text) := by
  cases text with
  | nil => exact congrArg some run_nil.symm
  | cons a rest => rfl

/-- Without the users a text is sent all the same. -/
theorem exists_stripped (js : Characters) (letters : Letters α) (lookup : Option (List UserRow)) (text : List α) :
    ∃ stripped, stripSensitiveData js letters lookup text = some stripped := by
  cases text with
  | nil => exact ⟨[], rfl⟩
  | cons a rest => cases lookup <;> exact ⟨_, rfl⟩

theorem exists_trimmed (letters : Letters α) (text : List α) : ∃ before after, text = before ++ trimText letters text ++ after ∧
    (∀ a ∈ before, isSpace (letters.char a) = true) ∧ ∀ a ∈ after, isSpace (letters.char a) = true := by
  let space := fun a => isSpace (letters.char a)
  refine ⟨text.takeWhile space, ((text.dropWhile space).reverse.takeWhile space).reverse, ?_, ?_, ?_⟩
  · unfold trimText
    rw [List.append_assoc, ← List.reverse_append, List.takeWhile_append_dropWhile, List.reverse_reverse,
      List.takeWhile_append_dropWhile]
  · intro a ha
    have hspace : space a = true := List.mem_takeWhile_imp ha
    exact hspace
  · intro a ha
    have hspace : space a = true := List.mem_takeWhile_imp (List.mem_reverse.mp ha)
    exact hspace

end

theorem not_isSpace_of_isAlpha (h : c.isAlpha = true) : isSpace c = false := by
  have hletter := toNat_of_isAlpha h
  simp only [isSpace, Bool.or_eq_false_iff, Bool.and_eq_false_iff, decide_eq_false_iff_not]
  omega

/-- What is sent of a text whose names the expressions see. -/
theorem anonymous_of_scrubbable {text : List Char} (hscrubbable : Scrubbable js users text)
    {stripped : List (Char × Bool)} (h : stripSensitiveData js marked (some users) (text.map marked.given) = some stripped) :
    Anonymous js users (trimText marked stripped) := by
  rw [stripSensitiveData_eq] at h
  obtain ⟨before, after, htrimmed, hbefore, hafter⟩ := exists_trimmed marked stripped
  have hwhole {left part right : List (Char × Bool)} (htext : trimText marked stripped = left ++ part ++ right) :
      run Prod.fst (removals js users) (text.map marked.given) = (before ++ left) ++ part ++ (right ++ after) := by
    rw [show run Prod.fst (removals js users) _ = stripped from Option.some.inj h, htrimmed, htext]
    simp
  constructor
  · exact fun user huser left part right htext => no_email_of_scrubbable hscrubbable huser (hwhole htext)
  · intro name hname hlong left part right htext hgiven hsame hdelimited
    rcases tied_of_scrubbable hscrubbable (hwhole htext) hgiven hname hlong hsame with ⟨a, ha, hletter⟩ | ⟨a, rest, ha, hletter⟩
    · rcases List.eq_nil_or_concat' left with rfl | ⟨init, b, rfl⟩
      · rw [List.append_nil] at ha
        have hspace := hbefore a (List.mem_of_getLast? ha)
        rw [show marked.char a = a.1 from rfl, not_isSpace_of_isAlpha hletter] at hspace
        exact absurd hspace (by simp)
      · rw [← List.append_assoc, List.getLast?_concat] at ha
        obtain rfl := Option.some.inj ha
        have hnot := hdelimited.before b.1 (by simp)
        rw [js.isLetter_ascii b.1 hletter] at hnot
        exact absurd hnot (by simp)
    · cases right with
      | nil =>
        have hspace := hafter a (by rw [show after = a :: rest from ha]; exact List.mem_cons_self)
        rw [show marked.char a = a.1 from rfl, not_isSpace_of_isAlpha hletter] at hspace
        exact absurd hspace (by simp)
      | cons b right =>
        obtain ⟨rfl, -⟩ := List.cons.inj ha
        have hnot := hdelimited.after b.1 rfl
        rw [js.isLetter_ascii b.1 hletter] at hnot
        exact absurd hnot (by simp)

/-! ## Calls -/

/-- The texts of a call. -/
def Call.texts : Call → List (List Char)
  | .generateKbFromTicket subject description resolutionNotes => [subject, description, resolutionNotes]
  | .searchKnowledgeBase query => [query]

/-- A lookup that a text of the call needs fails. -/
def Call.Unread (s : Service) : Call → Prop
  | .generateKbFromTicket .. => s.readable 0 = false ∨ s.readable 1 = false ∨ s.readable 2 = false
  | .searchKnowledgeBase _ => s.readable 0 = false

def Service.asksGroq (s : Service) : Bool := s.groq && s.articles.isSome

/-- Some provider is asked. -/
def Service.Asks (s : Service) : Call → Prop
  | .generateKbFromTicket .. => s.cloudflare = true ∧ s.asked ≠ []
  | .searchKnowledgeBase _ => s.asksGroq = true ∨ s.cloudflare = true ∧ s.asked ≠ []

/-- A call shows no user to a provider, and asks none while the users cannot be read. -/
structure Secure (js : Characters) (s : Service) (call : Call) : Prop where
  anonymous : ∀ request ∈ requests js marked s call, ∀ text, .given text ∈ request.prompt → Anonymous js s.users text
  silent : call.Unread s → requests js marked s call = []

section
variable {α : Type} {letters : Letters α} {s : Service} {subject description resolutionNotes query : List Char}
  {text : List α}

theorem generateKbFromTicket_of_not (h : s.cloudflare = false) :
    generateKbFromTicket js letters s subject description resolutionNotes = [] := by
  unfold generateKbFromTicket
  rw [h, if_neg Bool.false_ne_true]

theorem searchWithCloudflare_of_not (h : s.cloudflare = false) : searchWithCloudflare js letters s query = [] := by
  unfold searchWithCloudflare
  rw [h, if_neg Bool.false_ne_true]

theorem exists_articlePrompt (js : Characters) (letters : Letters α) (subject description resolutionNotes : List Char)
    (h : s.cloudflare = true) : ∃ cleanSubject cleanDescription cleanResolution,
    stripSensitiveData js letters (s.lookup 0) (subject.map letters.given) = some cleanSubject ∧
    stripSensitiveData js letters (s.lookup 1) (description.map letters.given) = some cleanDescription ∧
    stripSensitiveData js letters (s.lookup 2) (resolutionNotes.map letters.given) = some cleanResolution ∧
    generateKbFromTicket js letters s subject description resolutionNotes =
      requestCloudflare s (articlePrompt letters cleanSubject cleanDescription cleanResolution) := by
  obtain ⟨cleanSubject, hsubject⟩ := exists_stripped js letters (s.lookup 0) (subject.map letters.given)
  obtain ⟨cleanDescription, hdescription⟩ := exists_stripped js letters (s.lookup 1) (description.map letters.given)
  obtain ⟨cleanResolution, hresolution⟩ := exists_stripped js letters (s.lookup 2) (resolutionNotes.map letters.given)
  refine ⟨cleanSubject, cleanDescription, cleanResolution, hsubject, hdescription, hresolution, ?_⟩
  unfold generateKbFromTicket
  rw [if_pos h, hsubject, hdescription, hresolution]
  rfl

theorem exists_keywordPrompt (js : Characters) (letters : Letters α) (query : List Char) (h : s.cloudflare = true) : ∃ cleanQuery,
    stripSensitiveData js letters (s.lookup 0) (query.map letters.given) = some cleanQuery ∧
    searchWithCloudflare js letters s query = requestCloudflare s (keywordPrompt letters cleanQuery) := by
  obtain ⟨cleanQuery, hquery⟩ := exists_stripped js letters (s.lookup 0) (query.map letters.given)
  refine ⟨cleanQuery, hquery, ?_⟩
  unfold searchWithCloudflare
  rw [if_pos h, hquery]
  rfl

theorem requestCloudflare_eq_nil {prompt : List (Part α)} : requestCloudflare s prompt = [] ↔ s.asked = [] :=
  List.map_eq_nil_iff

theorem prompt_of_requestCloudflare {prompt : List (Part α)} {request : Request α}
    (h : request ∈ requestCloudflare s prompt) : request.prompt = prompt := by
  obtain ⟨model, -, rfl⟩ := List.mem_map.mp h
  rfl

theorem searchWithCloudflare_eq_nil : searchWithCloudflare js letters s query = [] ↔
    ¬ (s.cloudflare = true ∧ s.asked ≠ []) := by
  cases h : s.cloudflare with
  | false => simp [searchWithCloudflare_of_not h]
  | true =>
    obtain ⟨cleanQuery, -, hrequests⟩ := exists_keywordPrompt js letters query h
    rw [hrequests, requestCloudflare_eq_nil]
    simp

theorem searchKnowledgeBase_of_not (h : s.asksGroq = false) :
    searchKnowledgeBase js letters s query = searchWithCloudflare js letters s query := by
  unfold Service.asksGroq at h
  unfold searchKnowledgeBase
  cases hgroq : s.groq with
  | false => rfl
  | true =>
    rw [hgroq, Bool.true_and] at h
    cases harticles : s.articles with
    | none => rfl
    | some allKbs => simp [harticles] at h

/-- Groq is sent the query as it is. -/
theorem searchKnowledgeBase_of_asksGroq (js : Characters) (letters : Letters α) (query : List Char)
    (h : s.asksGroq = true) : ∃ allKbs,
    searchKnowledgeBase js letters s query = ⟨.groq, groqPrompt letters query allKbs⟩ ::
      if s.groqAnswers then [] else searchWithCloudflare js letters s query := by
  unfold Service.asksGroq at h
  obtain ⟨hgroq, harticles⟩ := Bool.and_eq_true_iff.mp h
  obtain ⟨allKbs, hallKbs⟩ := Option.isSome_iff_exists.mp harticles
  unfold searchKnowledgeBase
  rw [hgroq, hallKbs]
  exact ⟨allKbs, rfl⟩

theorem requests_eq_nil {call : Call} : requests js letters s call = [] ↔ ¬ s.Asks call := by
  cases call with
  | generateKbFromTicket subject description resolutionNotes =>
    show generateKbFromTicket js letters s subject description resolutionNotes = [] ↔ ¬ (s.cloudflare = true ∧ s.asked ≠ [])
    cases h : s.cloudflare with
    | false => simp [generateKbFromTicket_of_not h]
    | true =>
      obtain ⟨_, _, _, -, -, -, hrequests⟩ :=
        exists_articlePrompt js letters subject description resolutionNotes h
      rw [hrequests, requestCloudflare_eq_nil]
      simp
  | searchKnowledgeBase query =>
    show searchKnowledgeBase js letters s query = [] ↔ ¬ (s.asksGroq = true ∨ s.cloudflare = true ∧ s.asked ≠ [])
    cases h : s.asksGroq with
    | false =>
      rw [searchKnowledgeBase_of_not h, searchWithCloudflare_eq_nil]
      simp
    | true =>
      obtain ⟨allKbs, hrequests⟩ := searchKnowledgeBase_of_asksGroq js letters query h
      rw [hrequests]
      simp

theorem anonymous_of_readable {n : Nat} {source : List Char} {stripped : List (Char × Bool)}
    (hscrubbable : Scrubbable js s.users source) (hread : s.readable n = true)
    (h : stripSensitiveData js marked (s.lookup n) (source.map marked.given) = some stripped) :
    Anonymous js s.users (trimText marked stripped) := by
  unfold Service.lookup at h
  rw [if_pos hread] at h
  exact anonymous_of_scrubbable hscrubbable h

theorem anonymous_of_searchWithCloudflare (hscrubbable : Scrubbable js s.users query) (hread : s.readable 0 = true)
    {request : Request (Char × Bool)} (hrequest : request ∈ searchWithCloudflare js marked s query)
    {text : List (Char × Bool)} (htext : .given text ∈ request.prompt) : Anonymous js s.users text := by
  cases h : s.cloudflare with
  | false => simp [searchWithCloudflare_of_not h] at hrequest
  | true =>
    obtain ⟨cleanQuery, hquery, hrequests⟩ := exists_keywordPrompt js marked query h
    rw [hrequests] at hrequest
    rw [prompt_of_requestCloudflare hrequest] at htext
    obtain rfl : text = trimText marked cleanQuery := by simpa [keywordPrompt] using htext
    exact anonymous_of_readable hscrubbable hread hquery

/-- A call with texts whose names the expressions see is secure exactly if Groq is not sent a query that shows a user, and
no provider is asked while the users cannot be read. -/
theorem secure_iff {call : Call} (hscrubbable : ∀ text ∈ call.texts, Scrubbable js s.users text) : Secure js s call ↔
    (∀ query, call = .searchKnowledgeBase query → s.asksGroq = true → Anonymous js s.users (query.map marked.given)) ∧
      (call.Unread s → ¬ s.Asks call) := by
  constructor
  · intro hsecure
    refine ⟨?_, fun hunread => requests_eq_nil.mp (hsecure.silent hunread)⟩
    rintro query rfl hgroq
    obtain ⟨allKbs, hrequests⟩ := searchKnowledgeBase_of_asksGroq js marked query hgroq
    have hrequest : ⟨.groq, groqPrompt marked query allKbs⟩ ∈ requests js marked s (.searchKnowledgeBase query) := by
      show _ ∈ searchKnowledgeBase js marked s query
      rw [hrequests]
      exact List.mem_cons_self
    exact hsecure.anonymous _ hrequest _ (by simp [groqPrompt])
  · rintro ⟨hgroq, hunread⟩
    refine ⟨fun request hrequest text htext => ?_, fun h => requests_eq_nil.mpr (hunread h)⟩
    have hasks : s.Asks call := by
      by_contra hnot
      rw [requests_eq_nil.mpr hnot] at hrequest
      simp at hrequest
    have hread : ¬ call.Unread s := fun h => hunread h hasks
    cases call with
    | generateKbFromTicket subject description resolutionNotes =>
      obtain ⟨hcloudflare, -⟩ := hasks
      have hall (n : Nat) (h : n = 0 ∨ n = 1 ∨ n = 2) : s.readable n = true := by
        by_contra hn
        rw [Bool.not_eq_true] at hn
        rcases h with rfl | rfl | rfl
        · exact hread (.inl hn)
        · exact hread (.inr (.inl hn))
        · exact hread (.inr (.inr hn))
      obtain ⟨cleanSubject, cleanDescription, cleanResolution, hsubject, hdescription, hresolution, hrequests⟩ :=
        exists_articlePrompt js marked subject description resolutionNotes hcloudflare
      replace hrequest : request ∈ generateKbFromTicket js marked s subject description resolutionNotes := hrequest
      rw [hrequests] at hrequest
      rw [prompt_of_requestCloudflare hrequest] at htext
      have hgiven : text = trimText marked cleanSubject ∨ text = trimText marked cleanDescription ∨
          text = trimText marked cleanResolution := by simpa [articlePrompt] using htext
      rcases hgiven with rfl | rfl | rfl
      · exact anonymous_of_readable (hscrubbable subject (by simp [Call.texts])) (hall 0 (by simp)) hsubject
      · exact anonymous_of_readable (hscrubbable description (by simp [Call.texts])) (hall 1 (by simp)) hdescription
      · exact anonymous_of_readable (hscrubbable resolutionNotes (by simp [Call.texts])) (hall 2 (by simp)) hresolution
    | searchKnowledgeBase query =>
      have hquery : Scrubbable js s.users query := hscrubbable query List.mem_cons_self
      have hzero : s.readable 0 = true := by
        by_contra hzero
        exact hread (Bool.eq_false_iff.mpr hzero)
      replace hrequest : request ∈ searchKnowledgeBase js marked s query := hrequest
      cases hasksGroq : s.asksGroq with
      | false =>
        rw [searchKnowledgeBase_of_not hasksGroq] at hrequest
        exact anonymous_of_searchWithCloudflare hquery hzero hrequest htext
      | true =>
        obtain ⟨allKbs, hrequests⟩ := searchKnowledgeBase_of_asksGroq js marked query hasksGroq
        rw [hrequests] at hrequest
        rcases List.mem_cons.mp hrequest with rfl | hrequest
        · obtain rfl : text = query.map marked.given := by simpa [groqPrompt] using htext
          exact hgroq query rfl hasksGroq
        · split_ifs at hrequest
          · simp at hrequest
          · exact anonymous_of_searchWithCloudflare hquery hzero hrequest htext

end

/-! ## Marks -/

/-- A piece of a prompt without the marks. -/
def Part.chars {α : Type} (letters : Letters α) : Part α → Part Char
  | written text => written text
  | given text => given (text.map letters.char)

def Request.chars {α : Type} (letters : Letters α) (request : Request α) : Request Char :=
  ⟨request.provider, request.prompt.map (Part.chars letters)⟩

section
variable {α : Type} {letters : Letters α} {s : Service}

theorem map_given (letters : Letters α) (text : List Char) : (text.map letters.given).map letters.char = text.map plain.given := by
  rw [List.map_map]
  exact List.map_congr_left fun c _ => letters.char_given c

theorem map_inserted (text : List Char) : (text.map letters.inserted).map letters.char = text.map plain.inserted := by
  rw [List.map_map]
  exact List.map_congr_left fun c _ => letters.char_inserted c

theorem wordRemoval_chars (longerThan : Nat) (word : Option String) :
    (wordRemoval js letters longerThan word).map (Step.map letters.char) = wordRemoval js plain longerThan word := by
  unfold wordRemoval
  rw [List.map_map]
  refine List.map_congr_left fun own _ => ?_
  exact congrArg (Step.mk _) (map_inserted _)

theorem userRemovals_chars (user : UserRow) :
    (userRemovals js letters user).map (Step.map letters.char) = userRemovals js plain user := by
  have hemail : (emailRemoval js letters user.email).map (Step.map letters.char) = emailRemoval js plain user.email := by
    unfold emailRemoval
    split_ifs
    · exact congrArg (fun inserted => [Step.mk _ inserted]) (map_inserted _)
    · rfl
  unfold userRemovals
  simp only [List.map_append, wordRemoval_chars, hemail]

theorem genericRemovals_chars : (genericRemovals letters).map (Step.map letters.char) = genericRemovals plain := by
  have hplaceholder (text : String) (pattern : Pattern Char) :
      Step.map letters.char { pattern, inserted := text.toList.map letters.inserted } =
        { pattern, inserted := text.toList.map plain.inserted } := congrArg (Step.mk pattern) (map_inserted _)
  show [Step.map letters.char _, Step.map letters.char _] = _
  rw [hplaceholder, hplaceholder]
  rfl

theorem stripSensitiveData_chars (letters : Letters α) (lookup : Option (List UserRow)) (text : List Char) :
    (stripSensitiveData js letters lookup (text.map letters.given)).map (List.map letters.char) =
      stripSensitiveData js plain lookup (text.map plain.given) := by
  have hrun (steps : List (Step α Char)) : (run letters.char steps (text.map letters.given)).map letters.char =
      run plain.char (steps.map (Step.map letters.char)) (text.map plain.given) := by
    have hmap : (run (plain.char ∘ letters.char) steps (text.map letters.given)).map letters.char = _ :=
      map_run letters.char steps _
    rwa [map_given] at hmap
  cases text with
  | nil => rfl
  | cons c rest =>
    cases lookup with
    | none =>
      show some ((run letters.char (genericRemovals letters) _).map letters.char) = _
      rw [hrun, genericRemovals_chars]
      rfl
    | some users =>
      show some ((run letters.char (users.flatMap (userRemovals js letters) ++ genericRemovals letters) _).map
        letters.char) = _
      rw [hrun, List.map_append, genericRemovals_chars, List.map_flatMap]
      simp only [userRemovals_chars]
      rfl

theorem trimText_chars (text : List α) :
    (trimText letters text).map letters.char = trimText plain (text.map letters.char) := by
  have hdrop (l : List α) : (l.dropWhile fun a => isSpace (letters.char a)).map letters.char =
      (l.map letters.char).dropWhile isSpace := by
    rw [List.dropWhile_map]
    rfl
  show _ = (((text.map letters.char).dropWhile isSpace).reverse.dropWhile isSpace).reverse
  unfold trimText
  rw [List.map_reverse, hdrop, List.map_reverse, hdrop]

theorem requestCloudflare_chars (prompt : List (Part α)) : (requestCloudflare s prompt).map (Request.chars letters) =
    requestCloudflare s (prompt.map (Part.chars letters)) := by
  unfold requestCloudflare
  rw [List.map_map]
  rfl

theorem searchWithCloudflare_chars (query : List Char) :
    (searchWithCloudflare js letters s query).map (Request.chars letters) = searchWithCloudflare js plain s query := by
  cases h : s.cloudflare with
  | false => rw [searchWithCloudflare_of_not h, searchWithCloudflare_of_not h, List.map_nil]
  | true =>
    obtain ⟨cleanQuery, hquery, hrequests⟩ := exists_keywordPrompt js letters query h
    obtain ⟨cleanPlain, hplain, hrequestsPlain⟩ := exists_keywordPrompt js plain query h
    rw [← stripSensitiveData_chars letters, hquery] at hplain
    obtain rfl : cleanQuery.map letters.char = cleanPlain := Option.some.inj hplain
    rw [hrequests, hrequestsPlain, requestCloudflare_chars]
    simp [keywordPrompt, Part.chars, trimText_chars]

end

end

/-! ## Two tickets -/

/-- The letters of ASCII in upper case. -/
def upper (c : Char) : Char := if c.isLower then Char.ofNat (c.toNat - 32) else c

theorem isAlpha_upper {c : Char} (h : c.isLower = true) : (upper c).isAlpha = true := by
  have hletters : ∀ n < 123, 97 ≤ n → (Char.ofNat (n - 32)).isAlpha = true := by decide +kernel
  unfold upper
  rw [if_pos h]
  obtain ⟨hfirst, hlast⟩ := toNat_of_isLower h
  exact hletters c.toNat (Nat.lt_succ_of_le hlast) hfirst

theorem upper_sign {c d : Char} (halpha : d.isAlpha = false) (h : upper c = upper d) : c = d := by
  have hd : upper d = d := by
    unfold upper
    rw [if_neg]
    intro hlower
    have hletter : d.isAlpha = true := Bool.or_eq_true_iff.mpr (.inr hlower)
    rw [halpha] at hletter
    cases hletter
  rw [hd] at h
  by_cases hlower : c.isLower = true
  · have hc := isAlpha_upper hlower
    rw [h, halpha] at hc
    exact absurd hc (by simp)
  · unfold upper at h
    rwa [if_neg hlower] at h

/-- Letters of ASCII, and one more. -/
def latin : Characters where
  canonicalize := upper
  isLetter c := c.isAlpha || c = 'é'
  canonicalize_sign _ _ _ halpha h := upper_sign halpha h
  isLetter_ascii _ h := by simp [h]

/-- Cloudflare is asked about the texts of a user of this name. -/
def helpDesk (firstName : String) : Service where
  cloudflare := true
  users := [{ firstName := some firstName, email := "user@example.org" }]
  asked := ["@cf/openai/gpt-oss-120b"]

theorem scrubbable_of_first {text : List Char} (htext : text = "maria".toList ∨ text = []) :
    Scrubbable latin (helpDesk "Maria").users text where
  address user huser := by
    obtain rfl := List.mem_singleton.mp huser
    exact ⟨by decide +kernel, by decide +kernel, by decide +kernel⟩
  short user huser hshort := by
    obtain rfl := List.mem_singleton.mp huser
    exact absurd hshort (by decide +kernel)
  name name hname _ left part right hsplit hsame := by
    have hnames : registeredNames (helpDesk "Maria").users = ["Maria"] := rfl
    rw [hnames] at hname
    obtain rfl := List.mem_singleton.mp hname
    have hfive : part.length = 5 := hsame.length_eq
    have hlength : text.length = left.length + part.length + right.length := by
      rw [hsplit, List.length_append, List.length_append]
    rcases htext with rfl | rfl
    · obtain ⟨rfl, rfl⟩ : left = [] ∧ right = [] := by
        have htotal : ("maria".toList).length = 5 := by decide +kernel
        constructor
        · exact List.eq_nil_of_length_eq_zero (by omega)
        · exact List.eq_nil_of_length_eq_zero (by omega)
      obtain rfl : "maria".toList = part := by simpa using hsplit
      exact .inl ⟨by decide +kernel, by decide +kernel, rfl, rfl⟩
    · rw [List.length_nil, hfive] at hlength
      omega

theorem maria_secure : Secure latin (helpDesk "Maria") (.generateKbFromTicket "maria".toList [] []) := by
  refine (secure_iff ?_).mpr ⟨by simp, fun hunread => ?_⟩
  · intro text htext
    rcases List.mem_cons.mp htext with rfl | htext
    · exact scrubbable_of_first (.inl rfl)
    · exact scrubbable_of_first (.inr (by simpa using htext))
  · exact absurd hunread (by simp [Call.Unread, helpDesk])

/-- A first name whose last letter is none of ASCII is not taken out. -/
theorem jose_is_sent : ¬ ∀ (js : Characters) (s : Service) (call : Call), Secure js s call := by
  intro h
  have hsecure := h latin (helpDesk "José") (.generateKbFromTicket "José".toList [] [])
  obtain ⟨cleanSubject, cleanDescription, cleanResolution, hsubject, -, -, hrequests⟩ :=
    exists_articlePrompt latin marked (s := helpDesk "José") "José".toList [] [] rfl
  have hkept : stripSensitiveData latin marked ((helpDesk "José").lookup 0) ("José".toList.map marked.given) =
      some ("José".toList.map marked.given) := by decide +kernel
  rw [hkept] at hsubject
  obtain rfl := Option.some.inj hsubject
  have hrequest : ⟨.cloudflare "@cf/openai/gpt-oss-120b", articlePrompt marked ("José".toList.map marked.given)
      cleanDescription cleanResolution⟩ ∈ requests latin marked (helpDesk "José")
        (.generateKbFromTicket "José".toList [] []) := by
    show _ ∈ generateKbFromTicket latin marked (helpDesk "José") "José".toList [] []
    rw [hrequests]
    exact List.mem_cons_self
  have htrimmed : trimText marked ("José".toList.map marked.given) = [] ++ "José".toList.map marked.given ++ [] := by
    decide +kernel
  have hanonymous := hsecure.anonymous _ hrequest _ (List.mem_cons_of_mem _ List.mem_cons_self)
  refine hanonymous.noName "José" List.mem_cons_self (by decide +kernel) _ _ _ htrimmed ?_ (by decide +kernel) ⟨?_, ?_⟩
  · decide +kernel
  · simp
  · simp

end ComplianceHub.Tickets.KnowledgeBase
