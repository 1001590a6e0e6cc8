import ComplianceHub.Common
import ComplianceHub.Lib.Calls
import Mathlib.Data.List.Nodup

/-!
# Refresh and logout

* `Blacklist` : the table `token_blacklist`, with its unique key on `token_jti`;
* `SessionCall`, `sessionStep` : `refresh` and `logout` in their atomic steps, between which any other call may run;
* `refresh_tokens_are_single_use` : a token id is traded in once, and never after a logout has revoked it.

`crypto.randomUUID` never gives a token id that the service has given out or read before.
-/

namespace ComplianceHub.Auth

open ComplianceHub.Lib

structure JwtPayload where
  sub : Nat
  email : String
  role : String
  units : List Nat
  staffId : Option String
  jti : Option String
deriving DecidableEq, Repr

/-- A token as its library reads it: `exp` is in seconds. -/
structure Jwt where
  payload : JwtPayload
  exp : Option Int
deriving DecidableEq, Repr

/-- The id of a token, none where it is absent or empty. -/
def Jwt.jti (token : Jwt) : Option String := token.payload.jti.filter fun jti => jti ≠ ""

/-! ## The blacklist -/

structure TokenBlacklist where
  tokenJti : String
  expiresAt : Int
deriving DecidableEq, Repr

structure Blacklist where
  rows : List TokenBlacklist := []
  unique : (rows.map TokenBlacklist.tokenJti).Nodup := by decide

namespace Blacklist

/-- `findOne({ where: { tokenJti } })` finds a row. -/
def has (b : Blacklist) (jti : String) : Prop := jti ∈ b.rows.map TokenBlacklist.tokenJti

instance (b : Blacklist) (jti : String) : Decidable (b.has jti) :=
  inferInstanceAs (Decidable (jti ∈ b.rows.map TokenBlacklist.tokenJti))

/-- `save` of a new row, none on a duplicate key. -/
def insert (b : Blacklist) (row : TokenBlacklist) : Option Blacklist :=
  if h : b.has row.tokenJti then none
  else some
    { rows := b.rows ++ [row]
      unique := by
        rw [List.map_append]
        exact List.nodup_append'.mpr ⟨b.unique, List.nodup_singleton _, by simpa [has] using h⟩ }

theorem insert_eq_some {b b' : Blacklist} {row : TokenBlacklist} (h : b.insert row = some b') :
    ¬ b.has row.tokenJti ∧ ∀ jti, b'.has jti ↔ b.has jti ∨ jti = row.tokenJti := by
  unfold insert at h
  split_ifs at h with hnew
  cases h
  refine ⟨hnew, fun jti => ?_⟩
  unfold has
  rw [List.map_append, List.mem_append, List.map_singleton, List.mem_singleton]

end Blacklist

/-! ## The calls -/

/-- What `usersService.findOne` reads for the new tokens. -/
structure Account where
  id : Nat
  email : String
  role : String
  units : List Nat
  staffId : Option String
  active : Bool
deriving DecidableEq, Repr

inductive JwtError where
  | tokenExpired
  | jsonWebToken
  | notBefore
deriving DecidableEq, Repr

/-- What a call has done so far. -/
inductive SessionCall where
  /-- `refresh`, before the token is verified. -/
  | refresh (token : Jwt)
  | verified (token : Jwt)
  /-- The blacklist held no row of the token id. -/
  | unrevoked (token : Jwt) (jti : String)
  | found (token : Jwt) (jti : String) (user : Account)
  | admitted (token : Jwt) (jti : String) (user : Account)
  | admittedTwice (token : Jwt) (jti : String) (user : Account)
  /-- Access and refresh token are signed, over one payload. -/
  | signed (token : Jwt) (jti : String) (tokens : JwtPayload)
  | returned (token : Jwt) (tokens : JwtPayload)
  | raised (e : HttpException)
  /-- `logout`, with what decoding read from the token. -/
  | logout (decoded : Option Jwt)
  | loggedOut
deriving DecidableEq, Repr

/-- What a step learns from outside: the library, the account tables, the access policy, the generator of ids. -/
inductive Answer where
  | verify (error : Option JwtError)
  | user (user : Option Account)
  | access (error : Option HttpException)
  | uuid (id : String)
  /-- The step asks the blacklist only. -/
  | table
deriving DecidableEq, Repr

structure Session where
  blacklist : Blacklist
  /-- Every token id given out or read so far. -/
  seen : List String

def invalidRefreshToken : SessionCall := .raised (.unauthorized "Invalid refresh token")

/-- The exceptions that `refresh` does not take for an invalid token. -/
def unavailable : SessionCall :=
  .raised (.serviceUnavailable "Session verification is temporarily unavailable. Please retry.")

/-- The catch block of `refresh`. -/
def refreshFailure (e : HttpException) : SessionCall :=
  match e with
  | .unauthorized _ | .notFound _ => invalidRefreshToken
  | _ => unavailable

def newPayload (user : Account) (jti : String) : JwtPayload :=
  { sub := user.id, email := user.email, role := user.role, units := user.units, staffId := user.staffId
    jti := some jti }

/-- The row that revokes a token, none for one without an id or an end. -/
def revocation (token : Jwt) : Option TokenBlacklist := do
  let jti ← token.jti
  let exp ← token.exp
  pure ⟨jti, exp * 1000⟩

/-- The next step of a call. -/
def sessionStep (s : Session) (call : SessionCall) (answer : Answer) : Option (Session × SessionCall) :=
  match call, answer with
  | .refresh _, .verify (some _) => some (s, invalidRefreshToken)
  | .refresh token, .verify none => some ({ s with seen := s.seen ++ token.jti.toList }, .verified token)
  | .verified token, .table =>
    match token.jti with
    | none => some (s, invalidRefreshToken)
    | some jti => some (s, if s.blacklist.has jti then invalidRefreshToken else .unrevoked token jti)
  | .unrevoked token jti, .user user =>
    match user.filter Account.active with
    | none => some (s, invalidRefreshToken)
    | some user => some (s, .found token jti user)
  | .found _ _ _, .access (some e) => some (s, refreshFailure e)
  | .found token jti user, .access none => some (s, .admitted token jti user)
  -- `generateTokens` asks the access policy again
  | .admitted _ _ _, .access (some e) => some (s, refreshFailure e)
  | .admitted token jti user, .access none => some (s, .admittedTwice token jti user)
  | .admittedTwice token jti user, .uuid id =>
    if id ∈ s.seen then none
    else some ({ s with seen := s.seen ++ [id] }, .signed token jti (newPayload user id))
  | .signed token _ tokens, .table =>
    match (revocation token).bind s.blacklist.insert with
    | none => some (s, unavailable)
    | some blacklist => some ({ s with blacklist }, .returned token tokens)
  | .logout decoded, .table =>
    -- a duplicate key is caught
    match (decoded.bind revocation).bind s.blacklist.insert with
    | none => some (s, .loggedOut)
    | some blacklist => some ({ s with blacklist }, .loggedOut)
  | _, _ => none

/-- A call before its first step. -/
def SessionCall.isStart : SessionCall → Prop
  | .refresh _ | .logout _ => True
  | _ => False

/-- Any number of refresh and logout calls over one blacklist. -/
def sessions : Calls Session SessionCall Answer where
  init _ := True
  start := SessionCall.isStart
  step := sessionStep

/-! ## What a step does -/

/-- The step of a call, with what it relies on. -/
inductive SessionStep (s : Session) : SessionCall → Session → SessionCall → Prop
  | raises {call : SessionCall} {e : HttpException} : SessionStep s call s (.raised e)
  | verifies {token : Jwt} :
      SessionStep s (.refresh token) { s with seen := s.seen ++ token.jti.toList } (.verified token)
  | looksUp {token : Jwt} {jti : String} : token.jti = some jti → ¬ s.blacklist.has jti →
      SessionStep s (.verified token) s (.unrevoked token jti)
  | finds {token : Jwt} {jti : String} {user : Account} : user.active = true →
      SessionStep s (.unrevoked token jti) s (.found token jti user)
  | admits {token : Jwt} {jti : String} {user : Account} :
      SessionStep s (.found token jti user) s (.admitted token jti user)
  | admitsTwice {token : Jwt} {jti : String} {user : Account} :
      SessionStep s (.admitted token jti user) s (.admittedTwice token jti user)
  | signs {token : Jwt} {jti id : String} {user : Account} : id ∉ s.seen →
      SessionStep s (.admittedTwice token jti user) { s with seen := s.seen ++ [id] }
        (.signed token jti (newPayload user id))
  | trades {token : Jwt} {jti : String} {tokens : JwtPayload} {row : TokenBlacklist} {blacklist : Blacklist} :
      revocation token = some row → s.blacklist.insert row = some blacklist →
      SessionStep s (.signed token jti tokens) { s with blacklist } (.returned token tokens)
  | leaves {decoded : Option Jwt} : SessionStep s (.logout decoded) s .loggedOut
  | revokes {decoded : Option Jwt} {row : TokenBlacklist} {blacklist : Blacklist} :
      decoded.bind revocation = some row → s.blacklist.insert row = some blacklist →
      SessionStep s (.logout decoded) { s with blacklist } .loggedOut

theorem sessionStep_of_eq_some {s s' : Session} {call call' : SessionCall} {answer : Answer}
    (h : sessionStep s call answer = some (s', call')) : SessionStep s call s' call' := by
  have hfails : ∀ e, SessionStep s call s (refreshFailure e) := by
    intro e
    unfold refreshFailure
    split <;> exact .raises
  unfold sessionStep at h
  split at h
  case h_1 =>
    cases h
    exact .raises
  case h_2 =>
    cases h
    exact .verifies
  case h_3 token =>
    split at h
    · cases h
      exact .raises
    · rename_i jti hjti
      split_ifs at h with hrevoked
      · cases h
        exact .raises
      · cases h
        exact .looksUp hjti hrevoked
  case h_4 token jti user =>
    split at h
    · cases h
      exact .raises
    · rename_i user hactive
      cases h
      exact .finds (Option.filter_eq_some_iff.mp hactive).2
  case h_5 =>
    cases h
    exact hfails _
  case h_6 =>
    cases h
    exact .admits
  case h_7 =>
    cases h
    exact hfails _
  case h_8 =>
    cases h
    exact .admitsTwice
  case h_9 token jti user id =>
    split_ifs at h with hseen
    cases h
    exact .signs hseen
  case h_10 token jti tokens =>
    split at h
    · cases h
      exact .raises
    · rename_i blacklist hinsert
      obtain ⟨row, hrow, hinsert⟩ := Option.bind_eq_some_iff.mp hinsert
      cases h
      exact .trades hrow hinsert
  case h_11 decoded =>
    split at h
    · cases h
      exact .leaves
    · rename_i blacklist hinsert
      obtain ⟨row, hrow, hinsert⟩ := Option.bind_eq_some_iff.mp hinsert
      cases h
      exact .revokes hrow hinsert
  case h_12 => cases h

/-- The blacklist only grows. -/
theorem SessionStep.grows {s s' : Session} {call call' : SessionCall} (h : SessionStep s call s' call') {jti : String}
    (hjti : s.blacklist.has jti) : s'.blacklist.has jti := by
  cases h with
  | trades _ hinsert => exact ((Blacklist.insert_eq_some hinsert).2 jti).mpr (.inl hjti)
  | revokes _ hinsert => exact ((Blacklist.insert_eq_some hinsert).2 jti).mpr (.inl hjti)
  | _ => exact hjti

/-- What was seen stays seen. -/
theorem SessionStep.remembers {s s' : Session} {call call' : SessionCall} (h : SessionStep s call s' call') {id : String}
    (hid : id ∈ s.seen) : id ∈ s'.seen := by
  cases h with
  | verifies => exact List.mem_append_left _ hid
  | signs _ => exact List.mem_append_left _ hid
  | _ => exact hid

theorem tokenJti_of_revocation {token : Jwt} {jti : String} {row : TokenBlacklist} (hjti : token.jti = some jti)
    (h : revocation token = some row) : row.tokenJti = jti := by
  obtain ⟨jti', hjti', h⟩ := Option.bind_eq_some_iff.mp h
  obtain ⟨exp, -, h⟩ := Option.bind_eq_some_iff.mp h
  cases h
  exact Option.some.inj (hjti'.symm.trans hjti)

/-! ## Single use -/

/-- What each call relies on: its token id, and once it has returned, the row that revokes it. -/
def SessionCall.Holds (s : Session) : SessionCall → Prop
  | .verified token => ∀ jti ∈ token.jti, jti ∈ s.seen
  | .unrevoked token jti | .found token jti _ | .admitted token jti _ | .admittedTwice token jti _ =>
    token.jti = some jti ∧ jti ∈ s.seen
  | .signed token jti tokens =>
    token.jti = some jti ∧ ∃ id, tokens.jti = some id ∧ id ∈ s.seen ∧ id ≠ jti
  | .returned token tokens =>
    (∀ jti ∈ token.jti, s.blacklist.has jti) ∧ ∃ id, tokens.jti = some id ∧ id ∈ s.seen ∧ token.jti ≠ some id
  | _ => True

/-- The id a call has signed its tokens with. -/
def SessionCall.newId : SessionCall → Option String
  | .signed _ _ tokens | .returned _ tokens => tokens.jti
  | _ => none

/-- The token id a call has traded in. -/
def SessionCall.traded : SessionCall → Option String
  | .returned token _ => token.jti
  | _ => none

theorem SessionCall.Holds.mono {s s' : Session} (hblacklist : ∀ jti, s.blacklist.has jti → s'.blacklist.has jti)
    (hseen : ∀ id ∈ s.seen, id ∈ s'.seen) {call : SessionCall} (h : call.Holds s) : call.Holds s' := by
  cases call with
  | verified token => exact fun jti hjti => hseen jti (h jti hjti)
  | unrevoked | found | admitted | admittedTwice => exact ⟨h.1, hseen _ h.2⟩
  | signed =>
    obtain ⟨hjti, id, hid, hmem, hne⟩ := h
    exact ⟨hjti, id, hid, hseen id hmem, hne⟩
  | returned =>
    obtain ⟨hjti, id, hid, hmem, hne⟩ := h
    exact ⟨fun jti h => hblacklist jti (hjti jti h), id, hid, hseen id hmem, hne⟩
  | _ => trivial

/-- A step keeps what its own call relies on. -/
theorem SessionStep.holds {s s' : Session} {call call' : SessionCall} (h : SessionStep s call s' call')
    (hcall : call.Holds s) : call'.Holds s' := by
  cases h with
  | raises | leaves | revokes => trivial
  | verifies =>
    intro jti hjti
    exact List.mem_append_right _ (Option.mem_toList.mpr hjti)
  | looksUp hjti _ => exact ⟨hjti, hcall _ hjti⟩
  | finds | admits | admitsTwice => exact hcall
  | @signs token jti id user hnew =>
    refine ⟨hcall.1, id, rfl, List.mem_append_right _ (List.mem_singleton_self _), ?_⟩
    rintro rfl
    exact hnew hcall.2
  | @trades token jti tokens row blacklist hrow hinsert =>
    obtain ⟨hjti, id, hid, hmem, hne⟩ := hcall
    refine ⟨fun jti' h => ?_, id, hid, hmem, fun h => hne ?_⟩
    · exact ((Blacklist.insert_eq_some hinsert).2 _).mpr (.inr (tokenJti_of_revocation h hrow).symm)
    · exact Option.some.inj (h.symm.trans hjti)

section
variable {ι : Type} [DecidableEq ι] {history : List (Transition (Pool ι Session SessionCall) (ι × Answer))}
  {p : Pool ι Session SessionCall}

theorem calls_hold (h : Run (sessions.interleaved ι) history p) : ∀ i, (p.call i).Holds p.shared := by
  refine (Calls.always (S := fun _ => True) (L := fun _ s call => call.Holds s) (P := fun _ => True) (fun _ _ => trivial) ?_ ?_
    ?_ h fun _ _ => trivial).2
  · intro _ s call _ hstart
    cases call <;> trivial
  · intro p i answer r _ hcall hstep _
    exact ⟨trivial, (sessionStep_of_eq_some hstep).holds hcall⟩
  · intro p i answer r j _ _ _ hj hstep _
    have hs := sessionStep_of_eq_some hstep
    exact hj.mono (fun _ => hs.grows) fun _ => hs.remembers

/-- A token id is traded in only while the blacklist does not hold it. -/
theorem SessionStep.traded {s s' : Session} {call call' : SessionCall} (h : SessionStep s call s' call') {jti : String}
    (htraded : call'.traded = some jti) :
    call.traded = some jti ∨ ¬ s.blacklist.has jti := by
  cases h with
  | trades hrow hinsert =>
    have hjti := tokenJti_of_revocation htraded hrow
    exact .inr (hjti ▸ (Blacklist.insert_eq_some hinsert).1)
  | _ => cases htraded

/-- A new id is one that was not seen before. -/
theorem SessionStep.newId {s s' : Session} {call call' : SessionCall} (h : SessionStep s call s' call') {id : String}
    (hid : call'.newId = some id) : call.newId = some id ∨ id ∉ s.seen := by
  cases h with
  | signs hnew =>
    cases hid
    exact .inr hnew
  | trades => exact .inl hid
  | _ => cases hid

theorem SessionCall.Holds.blacklisted {s : Session} {call : SessionCall} (h : call.Holds s) {jti : String}
    (htraded : call.traded = some jti) : s.blacklist.has jti := by
  cases call with
  | returned => exact h.1 jti htraded
  | _ => cases htraded

theorem SessionCall.Holds.seen {s : Session} {call : SessionCall} (h : call.Holds s) {id : String}
    (hid : call.newId = some id) : id ∈ s.seen := by
  cases call with
  | signed =>
    obtain ⟨-, id', hid', hmem, -⟩ := h
    cases hid'.symm.trans hid
    exact hmem
  | returned =>
    obtain ⟨-, id', hid', hmem, -⟩ := h
    cases hid'.symm.trans hid
    exact hmem
  | _ => cases hid

/-- Two calls have neither traded in the same token id nor signed with the same new one. -/
def Apart (a b : SessionCall) : Prop :=
  (∀ jti, a.traded = some jti → b.traded ≠ some jti) ∧ ∀ id, a.newId = some id → b.newId ≠ some id

theorem calls_apart (h : Run (sessions.interleaved ι) history p) : ∀ i j, i ≠ j → Apart (p.call i) (p.call j) := by
  refine Calls.pairwise (S := fun _ => True) (L := fun _ s call => call.Holds s) ?_ (fun _ _ hrun => ⟨trivial, calls_hold hrun⟩)
    ?_ ?_ h
  · rintro a b ⟨htraded, hnew⟩
    exact ⟨fun jti hb ha => htraded jti ha hb, fun id hb ha => hnew id ha hb⟩
  · intro a b ha _
    cases a <;> first | exact ha.elim | exact ⟨fun _ h => (nomatch h), fun _ h => (nomatch h)⟩
  · intro p i j answer r _ _ hi hj hapart hstep
    have hs := sessionStep_of_eq_some hstep
    refine ⟨fun jti hr => ?_, fun id hr => ?_⟩
    · rcases hs.traded hr with hi' | hfree
      · exact hapart.1 jti hi'
      · exact fun hj' => hfree (hj.blacklisted hj')
    · rcases hs.newId hr with hi' | hfresh
      · exact hapart.2 id hi'
      · exact fun hj' => hfresh (hj.seen hj')

/-- A logout committed the row that revokes a token id. -/
def LogoutRevokes (e : Transition (Pool ι Session SessionCall) (ι × Answer)) (jti : String) : Prop :=
  (∃ decoded, e.before.call e.label.1 = .logout decoded) ∧ ¬ e.before.shared.blacklist.has jti ∧
    e.after.shared.blacklist.has jti

/-- A revoked token id that no call has traded in: it stays so. -/
def Spent (p : Pool ι Session SessionCall) (jti : String) : Prop :=
  p.shared.blacklist.has jti ∧ ∀ i, (p.call i).traded ≠ some jti

theorem Spent.step {p p' : Pool ι Session SessionCall} {l : ι × Answer} {jti : String} (h : Spent p jti)
    (hs : (sessions.interleaved ι).step p l p') : Spent p' jti := by
  obtain ⟨⟨s', call'⟩, hstep, rfl⟩ := hs
  have hs := sessionStep_of_eq_some hstep
  refine ⟨hs.grows h.1, fun j hj => ?_⟩
  by_cases hji : j = l.1
  · subst hji
    rw [Pool.after_call] at hj
    rcases hs.traded hj with hold | hfree
    · exact h.2 _ hold
    · exact hfree h.1
  · rw [Pool.after_call_of_ne p _ hji] at hj
    exact h.2 j hj

theorem LogoutRevokes.spent {p p' : Pool ι Session SessionCall} {l : ι × Answer} {jti : String}
    (h : LogoutRevokes ⟨p, l, p'⟩ jti) (hcalls : ∀ i, (p.call i).Holds p.shared)
    (hs : (sessions.interleaved ι).step p l p') : Spent p' jti := by
  obtain ⟨⟨decoded, hlogout⟩, hfree, hhas⟩ := h
  obtain ⟨⟨s', call'⟩, hstep, rfl⟩ := hs
  refine ⟨hhas, fun j hj => ?_⟩
  have hs := sessionStep_of_eq_some hstep
  rw [show p.call l.1 = .logout decoded from hlogout] at hs
  by_cases hji : j = l.1
  · subst hji
    rw [Pool.after_call] at hj
    cases hs <;> cases hj
  · rw [Pool.after_call_of_ne p _ hji] at hj
    exact hfree ((hcalls j).blacklisted hj)

theorem spent_of_logoutRevokes (h : Run (sessions.interleaved ι) history p) {e : Transition _ _} (he : e ∈ history)
    {jti : String} (hrevokes : LogoutRevokes e jti) : Spent p jti := by
  refine Run.invariant (P := fun _ => True) (I := fun history p => ∀ e ∈ history, LogoutRevokes e jti → Spent p jti) ?_ ?_ h
    (fun _ _ => trivial) e he hrevokes
  · intro p _ e he
    cases he
  · intro history p l p' hrun ih hs _ e he hrevokes
    rcases List.mem_append.mp he with he | he
    · exact (ih e he hrevokes).step hs
    · rw [List.mem_singleton] at he
      subst he
      exact hrevokes.spent (calls_hold hrun) hs

end

/-- **Refresh tokens are single-use**: of the calls that carry a token id at most one returns a pair; none does once
a logout has committed its row; and the id of a returned pair is new, to the call and to every other. -/
theorem refresh_tokens_are_single_use {ι : Type} [DecidableEq ι]
    {history : List (Transition (Pool ι Session SessionCall) (ι × Answer))} {p : Pool ι Session SessionCall}
    (h : Run (sessions.interleaved ι) history p) :
    (∀ i j jti token token' a b, p.call i = .returned token a → p.call j = .returned token' b →
        token.jti = some jti → token'.jti = some jti → i = j) ∧
      (∀ e ∈ history, ∀ jti, LogoutRevokes e jti → ∀ i token a, p.call i = .returned token a → token.jti ≠ some jti) ∧
      ∀ i token a, p.call i = .returned token a → ∃ id, a.jti = some id ∧ token.jti ≠ some id ∧
        ∀ j token' b, p.call j = .returned token' b → j ≠ i → b.jti ≠ some id := by
  refine ⟨fun i j jti token token' a b hi hj hjti hjti' => ?_, fun e he jti hrevokes i token a hi hjti => ?_,
    fun i token a hi => ?_⟩
  · by_contra hne
    refine (calls_apart h i j hne).1 jti ?_ ?_
    · rw [hi]
      exact hjti
    · rw [hj]
      exact hjti'
  · refine (spent_of_logoutRevokes h he hrevokes).2 i ?_
    rw [hi]
    exact hjti
  · have hholds := calls_hold h i
    rw [hi] at hholds
    obtain ⟨-, id, hid, -, hne⟩ := hholds
    refine ⟨id, hid, hne, fun j token' b hj hji hb => ?_⟩
    refine (calls_apart h j i hji).2 id ?_ ?_
    · rw [hj]
      exact hb
    · rw [hi]
      exact hid

/-- A token with the id `a`. -/
def heldToken : Jwt :=
  { payload := { sub := 1, email := "a@b.c", role := "user", units := [1], staffId := none, jti := some "a" }
    exp := some 1000 }

def holder : Account := { id := 1, email := "a@b.c", role := "user", units := [1], staffId := none, active := true }

/-- Calls 0 and 1 refresh one token at the same time, call 2 logs another one out. -/
def racingCalls : Pool Nat Session SessionCall where
  shared := { blacklist := {}, seen := ["a", "b"] }
  call
    | 0 | 1 => .refresh heldToken
    | _ => .logout (some { heldToken with payload := { heldToken.payload with jti := some "b" } })

/-- Both calls are through every check before either writes. -/
def racingSteps : List (Nat × Answer) :=
  [(0, .verify none), (1, .verify none), (0, .table), (1, .table), (0, .user (some holder)), (1, .user (some holder)),
   (0, .access none), (1, .access none), (0, .access none), (1, .access none), (2, .table), (0, .uuid "c"),
   (1, .uuid "d"), (1, .table), (0, .table)]

theorem refresh_tokens_are_single_use_racing : ∃ log, sessions.execute racingCalls racingSteps = some log ∧
    (log.2.call 0 = unavailable ∧ log.2.call 1 = .returned heldToken (newPayload holder "d")) ∧
    (∀ i j jti token token' a b, log.2.call i = .returned token a → log.2.call j = .returned token' b →
        token.jti = some jti → token'.jti = some jti → i = j) ∧
      (∀ e ∈ log.1, ∀ jti, LogoutRevokes e jti → ∀ i token a, log.2.call i = .returned token a → token.jti ≠ some jti) ∧
      ∀ i token a, log.2.call i = .returned token a → ∃ id, a.jti = some id ∧ token.jti ≠ some id ∧
        ∀ j token' b, log.2.call j = .returned token' b → j ≠ i → b.jti ≠ some id := by
  have hcalls : (sessions.execute racingCalls racingSteps).map (fun log => (log.2.call 0, log.2.call 1)) =
      some (unavailable, .returned heldToken (newPayload holder "d")) := by decide +kernel
  obtain ⟨log, hlog, hcall⟩ := Option.map_eq_some_iff.mp hcalls
  have hstart : (sessions.interleaved Nat).init racingCalls := by
    refine ⟨trivial, fun i => ?_⟩
    rcases i with _ | _ | i <;> trivial
  exact ⟨log, hlog, ⟨congrArg Prod.fst hcall, congrArg Prod.snd hcall⟩,
    refresh_tokens_are_single_use (Calls.run_of_execute hstart hlog)⟩

end ComplianceHub.Auth
