import ComplianceHub.Json
import ComplianceHub.Lib.Run
import Mathlib.Logic.Function.Basic
import Mathlib.Data.List.Nodup

/-!
# The event stream of a client

The listeners of a page share one stream. Its module-level variables are the state, and every callback of the runtime is
an event: it runs to completion, and may come at any time at which the runtime has it pending.

* `Timers` : the timers that are pending, with the variables that hold them (`Tied`);
* `Source`, `Attempt` : the streams created, and the connection attempts that have not ended;
* `State` : the variables of the module; `scheduleReconnect`, `connectSse`, `disconnectSse` : its functions;
* `Event`, `Admits`, `handle`, `useSse` : the callbacks, when the runtime makes them, and what they do;
* `Sound`, `Covered` : what ties the variables together after every run (`kept_of_run`), and what follows
  (`one_stream_never_silent`).
-/

namespace ComplianceHub.Events.UseSse
open Lib

/-! ## Timers -/

inductive TimerKind where
  | reconnect | heartbeat
deriving DecidableEq, Repr

/-- The callback of a timer, with the values it has closed over. -/
inductive TimerCallback where
  | reconnect (authKey : String)
  | watchdog (generation source : Nat) (authKey : String)
deriving DecidableEq, Repr

def TimerCallback.kind : TimerCallback → TimerKind
  | reconnect _ => .reconnect
  | watchdog _ _ _ => .heartbeat

structure Timer where
  id : Nat
  callback : TimerCallback
deriving DecidableEq, Repr

/-- The pending timers, with `reconnectTimer` and `heartbeatTimer`. -/
structure Timers where
  next : Nat := 0
  pending : List Timer := []
  held : TimerKind → Option Nat := fun _ => none

namespace Timers

/-- `if (timer) clearTimeout(timer); timer = null` -/
def clear (timers : Timers) (kind : TimerKind) : Timers :=
  { timers with
    pending := timers.pending.filter fun timer => timers.held kind ≠ some timer.id
    held := Function.update timers.held kind none }

/-- `timer = setTimeout(callback)` -/
def set (timers : Timers) (callback : TimerCallback) : Timers where
  next := timers.next + 1
  pending := timers.pending ++ [⟨timers.next, callback⟩]
  held := Function.update timers.held callback.kind (some timers.next)

/-- A timer fires, and its callback first forgets it. -/
def fire (timers : Timers) (timer : Timer) : Timers :=
  { timers with
    pending := timers.pending.filter fun other => other.id ≠ timer.id
    held := Function.update timers.held timer.callback.kind none }

end Timers

/-! ## The state -/

inductive ReadyState where
  | connecting | open | closed
deriving DecidableEq, Repr

/-- An `EventSource`, with the values its handlers have closed over. -/
structure Source where
  id : Nat
  readyState : ReadyState := .connecting
  /-- Its handlers are set. -/
  handled : Bool := true
  generation : Nat
  authKey : String
deriving DecidableEq, Repr

def Source.live (source : Source) : Bool := source.readyState ≠ .closed

/-- Where a connection attempt is: before its ticket, or returned or thrown, with the rest of `connectSse` to come. -/
inductive Phase where
  | awaiting | returned | thrown
deriving DecidableEq, Repr

/-- A connection attempt that has not ended. It has a generation, and an abort controller, of its own. -/
structure Attempt where
  generation : Nat
  authKey : String
  phase : Phase := .awaiting
deriving DecidableEq, Repr

structure Listener where
  id : Nat
  types : List String
deriving DecidableEq, Repr

/-- The device: whether it is a native one, and `canRecoverSession()`. -/
structure Client where
  native : Bool
  canRecoverSession : Bool

structure State where
  listeners : List Listener := []
  nextListener : Nat := 0
  sources : List Source := []
  masterEventSource : Option Nat := none
  currentAuthKey : Option String := none
  connectionGeneration : Nat := 0
  connectionAbortController : Option Nat := none
  /-- The attempts whose controllers have aborted. -/
  aborted : List Nat := []
  attempts : List Attempt := []
  /-- The attempt whose promise is `connectionPromise`. -/
  connectionPromise : Option Nat := none
  connectionPromiseAuthKey : Option String := none
  timers : Timers := {}
  hidden : Bool := false
  accessToken : Option String := none

namespace State

/-- The master stream with its handlers removed and closed. -/
def closed (s : State) : List Source :=
  s.sources.map fun source =>
    if s.masterEventSource = some source.id then { source with readyState := .closed, handled := false } else source

def setReadyState (s : State) (id : Nat) (readyState : ReadyState) : State :=
  { s with sources := s.sources.map fun source => if source.id = id then { source with readyState } else source }

def setPhase (s : State) (generation : Nat) (phase : Phase) : State :=
  { s with attempts := s.attempts.map fun attempt =>
      if attempt.generation = generation then { attempt with phase } else attempt }

def scheduleReconnect (c : Client) (s : State) (authKey : String) : State :=
  if s.listeners = [] ∨ s.timers.held .reconnect ≠ none ∨ c.canRecoverSession = false then s
  else { s with timers := s.timers.set (.reconnect authKey) }

/-- A new attempt: everything before it is invalidated. -/
def restart (s : State) (authKey : String) : State :=
  { s with
    connectionGeneration := s.connectionGeneration + 1
    timers := (s.timers.clear .heartbeat).clear .reconnect
    sources := s.closed
    aborted := s.connectionAbortController.toList ++ s.aborted
    connectionAbortController := some (s.connectionGeneration + 1)
    currentAuthKey := some authKey
    attempts := s.attempts ++ [{ generation := s.connectionGeneration + 1, authKey }]
    connectionPromise := some (s.connectionGeneration + 1)
    connectionPromiseAuthKey := some authKey }

/-- `hasLiveConnection` -/
def hasLiveConnection (s : State) (authKey : String) : Bool :=
  s.currentAuthKey = some authKey &&
    s.sources.any fun source => decide (s.masterEventSource = some source.id) && source.live

/-- The attempt in flight serves another caller. -/
def sharesAttempt (s : State) (authKey : String) : Bool :=
  s.connectionPromise.isSome && s.connectionPromiseAuthKey = some authKey && s.currentAuthKey = some authKey &&
    !s.connectionAbortController.any fun generation => s.aborted.contains generation

def connectSse (c : Client) (s : State) (authKey : String) (force : Bool) : State :=
  if s.listeners = [] ∨ c.canRecoverSession = false then s
  else if force = false ∧ (s.hasLiveConnection authKey = true ∨ s.sharesAttempt authKey = true) then s
  else s.restart authKey

def armWatchdog (s : State) (source : Source) : State :=
  { s with timers := (s.timers.clear .heartbeat).set (.watchdog source.generation source.id source.authKey) }

/-- The stream of an attempt that has its ticket. -/
def openSource (s : State) (attempt : Attempt) : State :=
  let source : Source := { id := s.sources.length, generation := attempt.generation, authKey := attempt.authKey }
  armWatchdog { s with sources := s.sources ++ [source], masterEventSource := some source.id } source

/-- An attempt is over: the `finally` of `connectSse`. -/
def forgetAttempt (s : State) (attempt : Attempt) : State :=
  { s with
    attempts := s.attempts.filter fun other => other.generation ≠ attempt.generation
    connectionPromise := s.connectionPromise.filter fun generation => generation ≠ attempt.generation
    connectionPromiseAuthKey :=
      if s.connectionPromise = some attempt.generation then none else s.connectionPromiseAuthKey }

def disconnectSse (s : State) : State :=
  { s with
    connectionGeneration := s.connectionGeneration + 1
    timers := (s.timers.clear .heartbeat).clear .reconnect
    connectionPromise := none
    connectionPromiseAuthKey := none
    aborted := s.connectionAbortController.toList ++ s.aborted
    connectionAbortController := none
    sources := s.closed
    masterEventSource := none
    currentAuthKey := none }

end State

/-! ## The callbacks -/

inductive Content where
  | reconnected
  | payload (payload : Option Json)
deriving DecidableEq

/-- What a listener receives from a stream. -/
structure Delivery where
  source : Nat
  listener : Nat
  content : Content
deriving DecidableEq

inductive Event where
  | mount (types : List String)
  | unmount (listener : Nat)
  | tokenChanged (newToken : Option String)
  | online
  | visibilityChange (hidden : Bool)
  /-- The ticket of an attempt, none where the request fails. -/
  | ticketResponse (generation : Nat) (ticket : Option Json)
  /-- The rest of `connectSse` after the attempt it has awaited. -/
  | attemptEnded (generation : Nat)
  | sourceOpen (source : Nat)
  | sourceError (source : Nat) (readyState : ReadyState)
  /-- A message, none where it is no JSON. -/
  | sourceMessage (source : Nat) (data : Option Json)
  | timerFired (timer : Nat)

/-- `!!token` -/
def truthyText (text : Option String) : Bool := text.any fun text => text ≠ ""

/-- The key under which a client connects with a token; a native one needs it. -/
def Client.authKey (c : Client) (token : Option String) : Option String :=
  if c.native then (token.filter fun token => token ≠ "").map fun token => "native:" ++ token else some "browser-cookie"

section
variable (c : Client)

/-- `reconnectVisibleSession` -/
def reconnectVisibleSession (s : State) : State :=
  if s.listeners = [] ∨ s.hidden = true then s
  else
    match c.authKey s.accessToken with
    | none => s
    | some authKey => s.connectSse c authKey true

/-- A listener mounts. -/
def mount (s : State) (types : List String) : State :=
  match c.authKey s.accessToken with
  | none => s
  | some authKey =>
    State.connectSse c
      { s with listeners := s.listeners ++ [⟨s.nextListener, types⟩], nextListener := s.nextListener + 1 } authKey false

def unmount (s : State) (listener : Nat) : State :=
  let removed := { s with listeners := s.listeners.filter fun other => other.id ≠ listener }
  if removed.listeners = [] then removed.disconnectSse else removed

def tokenChanged (s : State) (newToken : Option String) : State :=
  let changed := { s with accessToken := newToken }
  if s.listeners ≠ [] ∧ truthyText newToken = true then
    changed.connectSse c ((c.authKey newToken).getD "") true
  else if truthyText newToken = true then changed
  else if c.native = true ∨ c.canRecoverSession = false then changed.disconnectSse
  else reconnectVisibleSession c changed

/-- A ticket that is a text. -/
def isTicket (ticket : Option Json) : Bool :=
  ticket.any fun ticket => match ticket with
    | .string text => text ≠ ""
    | _ => false

/-- The rest of an attempt after its ticket. -/
def ticketResponse (s : State) (attempt : Attempt) (ticket : Option Json) : State :=
  if isTicket ticket = true then
    if attempt.generation ∈ s.aborted ∨ attempt.generation ≠ s.connectionGeneration ∨
        s.currentAuthKey ≠ some attempt.authKey ∨ s.listeners = [] then
      s.setPhase attempt.generation .returned
    else (s.setPhase attempt.generation .returned).openSource attempt
  else s.setPhase attempt.generation .thrown

/-- The `catch` of `connectSse`. -/
def attemptThrown (s : State) (attempt : Attempt) : State :=
  if attempt.generation = s.connectionGeneration ∧ s.currentAuthKey = some attempt.authKey then
    State.scheduleReconnect c
      { s with currentAuthKey := none, connectionAbortController := none, masterEventSource := none } attempt.authKey
  else s

/-- The rest of `connectSse` after the attempt it has awaited. -/
def attemptEnded (s : State) (attempt : Attempt) : State :=
  (if attempt.phase = .thrown then attemptThrown c s attempt else s).forgetAttempt attempt

def sourceOpen (s : State) (source : Source) : State × List Delivery :=
  let opened := s.setReadyState source.id .open
  if source.handled = false ∨ s.masterEventSource ≠ some source.id ∨ source.generation ≠ s.connectionGeneration then
    (opened, [])
  else
    (State.armWatchdog { opened with timers := opened.timers.clear .reconnect } source,
      s.listeners.map fun listener => ⟨source.id, listener.id, .reconnected⟩)

def sourceError (s : State) (source : Source) (readyState : ReadyState) : State :=
  let failed := s.setReadyState source.id readyState
  if source.handled = true ∧ s.masterEventSource = some source.id then failed.scheduleReconnect c source.authKey
  else failed

/-- The type of a message that has one. -/
def messageType (data : Option Json) : Option (String × Option Json) :=
  match data with
  | some (.object fields) =>
    match fields.lookup "type" with
    | some (.string type) => some (type, fields.lookup "payload")
    | _ => none
  | _ => none

def sourceMessage (s : State) (source : Source) (data : Option Json) : State × List Delivery :=
  match messageType data with
  | none => (s, [])
  | some (type, payload) =>
    if source.handled = false ∨ s.masterEventSource ≠ some source.id then (s, [])
    else
      (s.armWatchdog source,
        if type = "HEARTBEAT" then []
        else (s.listeners.filter fun listener => type ∈ listener.types).map fun listener =>
          ⟨source.id, listener.id, .payload payload⟩)

def timerFired (s : State) (timer : Timer) : State :=
  let fired := { s with timers := s.timers.fire timer }
  match timer.callback with
  | .reconnect authKey => if fired.listeners = [] ∨ c.canRecoverSession = false then fired else fired.connectSse c authKey true
  | .watchdog generation source authKey =>
    if generation ≠ fired.connectionGeneration ∨ fired.masterEventSource ≠ some source ∨ fired.listeners = [] then fired
    else if fired.hidden = true then
      fired.armWatchdog { id := source, generation, authKey }
    else fired.connectSse c authKey true

/-- The callback of an event, with what it delivers. -/
def handle (s : State) : Event → State × List Delivery
  | .mount types => (mount c s types, [])
  | .unmount listener => (unmount s listener, [])
  | .tokenChanged newToken => (tokenChanged c s newToken, [])
  | .online => (reconnectVisibleSession c s, [])
  | .visibilityChange hidden => (reconnectVisibleSession c { s with hidden }, [])
  | .ticketResponse generation ticket =>
    match s.attempts.find? fun attempt => attempt.generation = generation && attempt.phase = .awaiting with
    | some attempt => (ticketResponse s attempt ticket, [])
    | none => (s, [])
  | .attemptEnded generation =>
    match s.attempts.find? fun attempt => attempt.generation = generation && attempt.phase ≠ .awaiting with
    | some attempt => (attemptEnded c s attempt, [])
    | none => (s, [])
  | .sourceOpen source =>
    match s.sources.find? fun other => other.id = source with
    | some source => sourceOpen s source
    | none => (s, [])
  | .sourceError source readyState =>
    match s.sources.find? fun other => other.id = source with
    | some source => (sourceError c s source readyState, [])
    | none => (s, [])
  | .sourceMessage source data =>
    match s.sources.find? fun other => other.id = source with
    | some source => sourceMessage s source data
    | none => (s, [])
  | .timerFired timer =>
    match s.timers.pending.find? fun other => other.id = timer with
    | some timer => (timerFired c s timer, [])
    | none => (s, [])

end

/-- When the runtime makes a callback: a closed stream has no more events. -/
def Admits (s : State) : Event → Prop
  | .ticketResponse generation _ => ∃ attempt ∈ s.attempts, attempt.generation = generation ∧ attempt.phase = .awaiting
  | .attemptEnded generation => ∃ attempt ∈ s.attempts, attempt.generation = generation ∧ attempt.phase ≠ .awaiting
  | .sourceOpen source => ∃ other ∈ s.sources, other.id = source ∧ other.readyState = .connecting
  | .sourceError source readyState => readyState ≠ .open ∧ ∃ other ∈ s.sources, other.id = source ∧ other.live = true
  | .sourceMessage source _ => ∃ other ∈ s.sources, other.id = source ∧ other.readyState = .open
  | .timerFired timer => ∃ other ∈ s.timers.pending, other.id = timer
  | .unmount listener => ∃ other ∈ s.listeners, other.id = listener
  | _ => True

/-- A page from its load on. -/
def useSse (c : Client) : System State Event where
  init s := ∃ hidden accessToken, s = { hidden, accessToken }
  step s e s' := Admits s e ∧ s' = (handle c s e).1

/-- A browser whose session can be recovered. -/
def browser : Client where
  native := false
  canRecoverSession := true

/-! ## Timers that are held -/

namespace Timers

/-- Every pending timer is the one its variable holds, and a variable holds none but a pending timer. -/
structure Tied (timers : Timers) : Prop where
  nodup : (timers.pending.map Timer.id).Nodup
  below : ∀ timer ∈ timers.pending, timer.id < timers.next
  held : ∀ timer ∈ timers.pending, timers.held timer.callback.kind = some timer.id
  pending : ∀ kind id, timers.held kind = some id → ∃ timer ∈ timers.pending, timer.id = id ∧ timer.callback.kind = kind

variable {timers : Timers} {kind : TimerKind}

theorem clear_held_self : (timers.clear kind).held kind = none := Function.update_self ..

theorem clear_held_of_ne {other : TimerKind} (h : other ≠ kind) : (timers.clear kind).held other = timers.held other :=
  Function.update_of_ne h ..

theorem set_held_self {callback : TimerCallback} : (timers.set callback).held callback.kind = some timers.next :=
  Function.update_self ..

theorem set_held_of_ne {callback : TimerCallback} {other : TimerKind} (h : other ≠ callback.kind) :
    (timers.set callback).held other = timers.held other := Function.update_of_ne h ..

theorem eq_of_id_eq (h : timers.Tied) {timer other : Timer} (htimer : timer ∈ timers.pending)
    (hother : other ∈ timers.pending) (hid : timer.id = other.id) : timer = other :=
  List.inj_on_of_nodup_map h.nodup htimer hother hid

/-- Timers of one kind that are forgotten together with the one that their variable holds. -/
theorem Tied.forget (h : timers.Tied) (kind : TimerKind) (gone : Timer → Bool)
    (hgone : ∀ timer ∈ timers.pending, gone timer = true ↔ timer.callback.kind = kind) :
    Tied { timers with
      pending := timers.pending.filter fun timer => !gone timer
      held := Function.update timers.held kind none } where
  nodup := h.nodup.sublist (List.filter_sublist.map _)
  below timer htimer := h.below timer (List.mem_of_mem_filter htimer)
  held timer htimer := by
    obtain ⟨hmem, hkept⟩ := List.mem_filter.mp htimer
    have hkind : timer.callback.kind ≠ kind := fun hkind => by simp [(hgone timer hmem).mpr hkind] at hkept
    show Function.update timers.held kind none timer.callback.kind = some timer.id
    rw [Function.update_of_ne hkind]
    exact h.held timer hmem
  pending other id hid := by
    change Function.update timers.held kind none other = some id at hid
    by_cases hkind : other = kind
    · subst hkind
      rw [Function.update_self] at hid
      exact absurd hid (by simp)
    · rw [Function.update_of_ne hkind] at hid
      obtain ⟨timer, htimer, htimerId, htimerKind⟩ := h.pending other id hid
      refine ⟨timer, List.mem_filter.mpr ⟨htimer, ?_⟩, htimerId, htimerKind⟩
      rw [Bool.not_eq_true', Bool.eq_false_iff]
      exact fun hgone' => hkind (htimerKind ▸ (hgone timer htimer).mp hgone')

theorem Tied.clear (h : timers.Tied) (kind : TimerKind) : (timers.clear kind).Tied := by
  have hforget := h.forget kind (fun timer => decide (timers.held kind = some timer.id))
    fun timer htimer => ?_
  · unfold Timers.clear
    simpa using hforget
  · rw [decide_eq_true_eq]
    constructor
    · intro hheld
      obtain ⟨other, hother, hid, hkind⟩ := h.pending kind timer.id hheld
      rw [← eq_of_id_eq h hother htimer hid, hkind]
    · rintro rfl
      exact h.held timer htimer

theorem Tied.fire (h : timers.Tied) {timer : Timer} (htimer : timer ∈ timers.pending) : (timers.fire timer).Tied := by
  have hforget := h.forget timer.callback.kind (fun other => decide (other.id = timer.id))
    fun other hother => ?_
  · unfold Timers.fire
    simpa using hforget
  · rw [decide_eq_true_eq]
    constructor
    · intro hid
      rw [eq_of_id_eq h hother htimer hid]
    · intro hkind
      have hheld := h.held other hother
      rw [hkind, h.held timer htimer] at hheld
      exact (Option.some.inj hheld).symm

/-- A new timer of a kind that has none. -/
theorem Tied.set (h : timers.Tied) {callback : TimerCallback} (hnone : timers.held callback.kind = none) :
    (timers.set callback).Tied where
  nodup := by
    unfold Timers.set
    rw [List.map_append, List.nodup_append]
    refine ⟨h.nodup, by simp, fun id hid other hother => ?_⟩
    obtain ⟨timer, htimer, rfl⟩ := List.mem_map.mp hid
    obtain rfl : other = timers.next := by simpa using hother
    exact (h.below timer htimer).ne
  below timer htimer := by
    rcases List.mem_append.mp htimer with htimer | htimer
    · exact Nat.lt_succ_of_lt (h.below timer htimer)
    · rw [List.mem_singleton.mp htimer]
      exact Nat.lt_succ_self _
  held timer htimer := by
    rcases List.mem_append.mp htimer with htimer | htimer
    · have hheld := h.held timer htimer
      rwa [set_held_of_ne fun hkind => by rw [hkind, hnone] at hheld; exact absurd hheld (by simp)]
    · rw [List.mem_singleton.mp htimer]
      exact set_held_self
  pending kind id hid := by
    by_cases hkind : kind = callback.kind
    · subst hkind
      rw [set_held_self] at hid
      exact ⟨_, List.mem_append_right _ (List.mem_singleton_self _), Option.some.inj hid, rfl⟩
    · rw [set_held_of_ne hkind] at hid
      obtain ⟨timer, htimer, hboth⟩ := h.pending kind id hid
      exact ⟨timer, List.mem_append_left _ htimer, hboth⟩

theorem Tied.armed (h : timers.Tied) (callback : TimerCallback) : ((timers.clear callback.kind).set callback).Tied :=
  (h.clear _).set clear_held_self

end Timers

/-! ## What ties the variables together -/

/-- The variables of a page agree. A stream that is not closed is the master of the current generation, and an attempt
of the current generation that has not returned has none beside it. -/
structure Sound (s : State) : Prop where
  timers : s.timers.Tied
  nodup : (s.sources.map Source.id).Nodup
  below : ∀ source ∈ s.sources, source.id < s.sources.length
  live : ∀ source ∈ s.sources, source.live = true →
    s.masterEventSource = some source.id ∧ source.generation = s.connectionGeneration ∧ source.handled = true
  apart : (s.attempts.map Attempt.generation).Nodup
  past : ∀ attempt ∈ s.attempts, attempt.generation ≤ s.connectionGeneration
  current : ∀ attempt ∈ s.attempts, attempt.generation = s.connectionGeneration →
    s.currentAuthKey = some attempt.authKey ∧
      (attempt.phase ≠ .returned → ∀ source ∈ s.sources, source.live = false)
  aborted : ∀ generation ∈ s.aborted, generation < s.connectionGeneration
  controller : ∀ generation ∈ s.connectionAbortController, generation ≤ s.connectionGeneration
  promise : ∀ generation ∈ s.connectionPromise, ∃ attempt ∈ s.attempts,
    attempt.generation = generation ∧ generation = s.connectionGeneration
  idle : s.listeners = [] →
    s.masterEventSource = none ∧ ∀ attempt ∈ s.attempts, attempt.generation ≠ s.connectionGeneration

/-- There is a stream, or a way to one. -/
def Covered (s : State) : Prop :=
  (∃ source ∈ s.sources, source.live = true) ∨ s.timers.held .reconnect ≠ none ∨
    ∃ attempt ∈ s.attempts, attempt.generation = s.connectionGeneration ∧ attempt.phase ≠ .returned

section
variable {c : Client} {s : State} {authKey : String}

theorem Sound.withTimers (h : Sound s) {timers : Timers} (htimers : timers.Tied) : Sound { s with timers } :=
  { h with timers := htimers }

theorem mem_closed {source : Source} (h : source ∈ s.closed) (hlive : source.live = true) :
    source ∈ s.sources ∧ s.masterEventSource ≠ some source.id := by
  obtain ⟨other, hother, rfl⟩ := List.mem_map.mp h
  split_ifs at hlive ⊢ with hmaster
  · exact absurd hlive (by simp [Source.live])
  · exact ⟨hother, hmaster⟩

theorem Sound.closed_live (h : Sound s) : ∀ source ∈ s.closed, source.live = false := by
  intro source hsource
  by_contra hlive
  rw [Bool.not_eq_false] at hlive
  obtain ⟨hmem, hmaster⟩ := mem_closed hsource hlive
  exact hmaster (h.live source hmem hlive).1

theorem map_id_closed : s.closed.map Source.id = s.sources.map Source.id := by
  unfold State.closed
  rw [List.map_map]
  refine List.map_congr_left fun source _ => ?_
  show (if s.masterEventSource = some source.id then _ else source).id = source.id
  split_ifs <;> rfl

theorem below_of_map {sources sources' : List Source} (hids : sources'.map Source.id = sources.map Source.id)
    (h : ∀ source ∈ sources, source.id < sources.length) : ∀ source ∈ sources', source.id < sources'.length := by
  have hlength : sources'.length = sources.length := by
    simpa using congrArg List.length hids
  intro source hsource
  have hid : source.id ∈ sources.map Source.id := hids ▸ List.mem_map_of_mem hsource
  obtain ⟨other, hother, hid⟩ := List.mem_map.mp hid
  rw [← hid, hlength]
  exact h other hother

theorem Sound.cleared (h : Sound s) : ((s.timers.clear .heartbeat).clear .reconnect).Tied :=
  (h.timers.clear _).clear _

theorem Sound.aborts (h : Sound s) :
    ∀ generation ∈ s.connectionAbortController.toList ++ s.aborted, generation < s.connectionGeneration + 1 := by
  intro generation hgeneration
  rcases List.mem_append.mp hgeneration with hcontroller | haborted
  · exact Nat.lt_succ_of_le (h.controller generation (Option.mem_toList.mp hcontroller))
  · exact Nat.lt_succ_of_lt (h.aborted generation haborted)

/-- A new attempt leaves the state sound, and covered by itself. -/
theorem Sound.restart (h : Sound s) (hlisteners : s.listeners ≠ []) : Sound (s.restart authKey) where
  timers := h.cleared
  nodup := by
    show (s.closed.map Source.id).Nodup
    rw [map_id_closed]
    exact h.nodup
  below := below_of_map map_id_closed h.below
  live source hsource hlive := absurd hlive (by simp [h.closed_live source hsource])
  apart := by
    show ((s.attempts ++ [_]).map Attempt.generation).Nodup
    rw [List.map_append, List.nodup_append]
    refine ⟨h.apart, by simp, fun generation hgeneration other hother => ?_⟩
    obtain ⟨attempt, hattempt, rfl⟩ := List.mem_map.mp hgeneration
    obtain rfl : other = s.connectionGeneration + 1 := by simpa using hother
    exact (Nat.lt_succ_of_le (h.past attempt hattempt)).ne
  past attempt hattempt := by
    rcases List.mem_append.mp hattempt with hattempt | hattempt
    · exact Nat.le_succ_of_le (h.past attempt hattempt)
    · rw [List.mem_singleton.mp hattempt]
      exact le_refl (s.connectionGeneration + 1)
  current attempt hattempt hgeneration := by
    change attempt.generation = s.connectionGeneration + 1 at hgeneration
    rcases List.mem_append.mp hattempt with hattempt | hattempt
    · have hpast := h.past attempt hattempt
      omega
    · rw [List.mem_singleton.mp hattempt]
      exact ⟨rfl, fun _ => h.closed_live⟩
  aborted := h.aborts
  controller generation hgeneration := by
    rw [← Option.some.inj hgeneration]
    exact le_refl (s.connectionGeneration + 1)
  promise generation hgeneration := by
    rw [← Option.some.inj hgeneration]
    exact ⟨_, List.mem_append_right _ (List.mem_singleton_self _), rfl, rfl⟩
  idle hnone := absurd hnone hlisteners

theorem covered_restart : Covered (s.restart authKey) :=
  .inr (.inr ⟨_, List.mem_append_right _ (List.mem_singleton_self _), rfl, by simp⟩)

theorem Sound.disconnectSse (h : Sound s) (listeners : List Listener) :
    Sound (State.disconnectSse { s with listeners }) where
  timers := h.cleared
  nodup := by
    show (s.closed.map Source.id).Nodup
    rw [map_id_closed]
    exact h.nodup
  below := below_of_map map_id_closed h.below
  live source hsource hlive := absurd hlive (by simp [h.closed_live source hsource])
  apart := h.apart
  past attempt hattempt := Nat.le_succ_of_le (h.past attempt hattempt)
  current attempt hattempt hgeneration := by
    have hpast := h.past attempt hattempt
    change attempt.generation = s.connectionGeneration + 1 at hgeneration
    omega
  aborted := h.aborts
  controller _ hgeneration := absurd hgeneration (by simp [State.disconnectSse])
  promise _ hgeneration := absurd hgeneration (by simp [State.disconnectSse])
  idle _ := by
    refine ⟨rfl, fun attempt hattempt hgeneration => ?_⟩
    have hpast := h.past attempt hattempt
    change attempt.generation = s.connectionGeneration + 1 at hgeneration
    omega

/-- What `scheduleReconnect` leaves while there are listeners. -/
theorem scheduleReconnect_spec (h : Sound s) (hlisteners : s.listeners ≠ []) (authKey : String) :
    Sound (s.scheduleReconnect browser authKey) ∧ Covered (s.scheduleReconnect browser authKey) := by
  unfold State.scheduleReconnect
  split_ifs with hskip
  · rcases hskip with hnone | hheld | hlost
    · exact absurd hnone hlisteners
    · exact ⟨h, .inr (.inl hheld)⟩
    · exact absurd hlost (by decide)
  · push Not at hskip
    refine ⟨h.withTimers (h.timers.set hskip.2.1), .inr (.inl ?_)⟩
    show ((s.timers.set (.reconnect authKey)).held (TimerCallback.reconnect authKey).kind) ≠ none
    rw [Timers.set_held_self]
    simp

/-- What a forced connection leaves while there are listeners. -/
theorem connectSse_spec (h : Sound s) (hlisteners : s.listeners ≠ []) (authKey : String) :
    Sound (s.connectSse browser authKey true) ∧ Covered (s.connectSse browser authKey true) := by
  have hrestart : s.connectSse browser authKey true = s.restart authKey := by
    unfold State.connectSse
    rw [if_neg (by simp [hlisteners, browser]), if_neg (by simp)]
  rw [hrestart]
  exact ⟨h.restart hlisteners, covered_restart⟩

theorem Sound.armWatchdog (h : Sound s) (source : Source) : Sound (s.armWatchdog source) :=
  h.withTimers (h.timers.armed (.watchdog source.generation source.id source.authKey))

theorem Covered.armWatchdog (h : Covered s) (source : Source) : Covered (s.armWatchdog source) := by
  rcases h with hlive | hheld | hattempt
  · exact .inl hlive
  · refine .inr (.inl ?_)
    show ((s.timers.clear .heartbeat).set (.watchdog source.generation source.id source.authKey)).held .reconnect ≠ none
    rw [Timers.set_held_of_ne (by simp [TimerCallback.kind]), Timers.clear_held_of_ne (by decide)]
    exact hheld
  · exact .inr (.inr hattempt)

/-! ## What the callbacks keep -/

/-- The variables agree, and a page with listeners is covered. -/
def Kept (s : State) : Prop := Sound s ∧ (s.listeners ≠ [] → Covered s)

theorem Kept.reconnectVisibleSession (h : Kept s) : Kept (reconnectVisibleSession browser s) := by
  unfold UseSse.reconnectVisibleSession
  split_ifs with hskip
  · exact h
  · push Not at hskip
    obtain ⟨hsound, hcovered⟩ := connectSse_spec h.1 hskip.1 "browser-cookie"
    exact ⟨hsound, fun _ => hcovered⟩

/-- A page that has a stream, or shares its attempt, is covered. -/
theorem covered_of_skipped (h : Kept s)
    (hskip : s.hasLiveConnection authKey = true ∨ s.sharesAttempt authKey = true) : Covered s := by
  rcases hskip with hlive | hshared
  · unfold State.hasLiveConnection at hlive
    rw [Bool.and_eq_true, List.any_eq_true] at hlive
    obtain ⟨-, source, hsource, hboth⟩ := hlive
    exact .inl ⟨source, hsource, (Bool.and_eq_true _ _ ▸ hboth).2⟩
  · unfold State.sharesAttempt at hshared
    simp only [Bool.and_eq_true] at hshared
    obtain ⟨generation, hgeneration⟩ := Option.isSome_iff_exists.mp hshared.1.1.1
    obtain ⟨attempt, hattempt, rfl, hcurrent⟩ := h.1.promise generation hgeneration
    exact h.2 fun hnone => (h.1.idle hnone).2 attempt hattempt hcurrent

theorem Kept.mount (h : Kept s) (types : List String) : Kept (mount browser s types) := by
  show Kept (State.connectSse browser { s with
    listeners := s.listeners ++ [⟨s.nextListener, types⟩], nextListener := s.nextListener + 1 } "browser-cookie" false)
  have hlisteners : s.listeners ++ [⟨s.nextListener, types⟩] ≠ [] := by simp
  have hsound : Sound { s with
      listeners := s.listeners ++ [⟨s.nextListener, types⟩], nextListener := s.nextListener + 1 } :=
    { h.1 with idle := fun hnone => absurd hnone hlisteners }
  unfold State.connectSse
  rw [if_neg (by simp [browser])]
  split_ifs with hskip
  · have hcovered : Covered s := covered_of_skipped h hskip.2
    exact ⟨hsound, fun _ => hcovered⟩
  · exact ⟨hsound.restart hlisteners, fun _ => covered_restart⟩

theorem Kept.unmount (h : Kept s) (listener : Nat) : Kept (unmount s listener) := by
  unfold UseSse.unmount
  dsimp only
  split_ifs with hnone
  · exact ⟨h.1.disconnectSse _, fun hlisteners => absurd hnone hlisteners⟩
  · have hbefore : s.listeners ≠ [] := fun hempty => hnone (by simp [hempty])
    exact ⟨{ h.1 with idle := fun hempty => absurd hempty hnone }, fun _ => h.2 hbefore⟩

theorem Kept.tokenChanged (h : Kept s) (newToken : Option String) : Kept (tokenChanged browser s newToken) := by
  have hchanged : Kept { s with accessToken := newToken } := ⟨{ h.1 with }, h.2⟩
  unfold UseSse.tokenChanged
  dsimp only
  split_ifs with hconnect htoken hlost
  · obtain ⟨hsound, hcovered⟩ := connectSse_spec hchanged.1 hconnect.1 ((browser.authKey newToken).getD "")
    exact ⟨hsound, fun _ => hcovered⟩
  · exact hchanged
  · exact absurd hlost (by decide)
  · exact hchanged.reconnectVisibleSession

/-! ### Attempts -/

theorem mem_setPhase {generation : Nat} {phase : Phase} {attempt : Attempt}
    (h : attempt ∈ (s.setPhase generation phase).attempts) : ∃ before ∈ s.attempts,
      attempt.generation = before.generation ∧ attempt.authKey = before.authKey ∧
        attempt.phase = if before.generation = generation then phase else before.phase := by
  obtain ⟨before, hbefore, rfl⟩ := List.mem_map.mp h
  refine ⟨before, hbefore, ?_⟩
  split_ifs <;> exact ⟨rfl, rfl, rfl⟩

theorem map_generation_setPhase {generation : Nat} {phase : Phase} :
    (s.setPhase generation phase).attempts.map Attempt.generation = s.attempts.map Attempt.generation := by
  unfold State.setPhase
  rw [List.map_map]
  refine List.map_congr_left fun attempt _ => ?_
  show (if attempt.generation = generation then { attempt with phase } else attempt).generation = attempt.generation
  split_ifs <;> rfl

theorem attempt_of_generation {attempts attempts' : List Attempt} {generation : Nat}
    (h : attempts'.map Attempt.generation = attempts.map Attempt.generation)
    (hmem : ∃ attempt ∈ attempts, attempt.generation = generation) :
    ∃ attempt ∈ attempts', attempt.generation = generation := by
  obtain ⟨attempt, hattempt, rfl⟩ := hmem
  have hgeneration : attempt.generation ∈ attempts'.map Attempt.generation := h ▸ List.mem_map_of_mem hattempt
  obtain ⟨other, hother, hsame⟩ := List.mem_map.mp hgeneration
  exact ⟨other, hother, hsame⟩

/-- An attempt of which it is true to say so goes on to a phase. -/
theorem Sound.setPhase (h : Sound s) {generation : Nat} {phase : Phase}
    (hphase : generation = s.connectionGeneration → phase ≠ .returned → ∀ source ∈ s.sources, source.live = false) :
    Sound (s.setPhase generation phase) where
  timers := h.timers
  nodup := h.nodup
  below := h.below
  live := h.live
  apart := by
    rw [map_generation_setPhase]
    exact h.apart
  past attempt hattempt := by
    obtain ⟨before, hbefore, hgeneration, -⟩ := mem_setPhase hattempt
    rw [hgeneration]
    exact h.past before hbefore
  current attempt hattempt hcurrent := by
    obtain ⟨before, hbefore, hgeneration, hkey, hchanged⟩ := mem_setPhase hattempt
    obtain ⟨hauthKey, hnone⟩ := h.current before hbefore (hgeneration ▸ hcurrent)
    refine ⟨hkey ▸ hauthKey, fun hopen => ?_⟩
    split_ifs at hchanged with hset
    · exact hphase (hset ▸ hgeneration ▸ hcurrent) (hchanged ▸ hopen)
    · exact hnone (hchanged ▸ hopen)
  aborted := h.aborted
  controller := h.controller
  promise generation' hpromise := by
    obtain ⟨attempt, hattempt, hgeneration, hcurrent⟩ := h.promise generation' hpromise
    obtain ⟨other, hother, hsame⟩ := attempt_of_generation map_generation_setPhase ⟨attempt, hattempt, hgeneration⟩
    exact ⟨other, hother, hsame, hcurrent⟩
  idle hnone := by
    refine ⟨(h.idle hnone).1, fun attempt hattempt => ?_⟩
    obtain ⟨before, hbefore, hgeneration, -⟩ := mem_setPhase hattempt
    rw [hgeneration]
    exact (h.idle hnone).2 before hbefore

/-- An attempt that is not the current one, or does not return, leaves a page covered. -/
theorem Covered.setPhase (h : Covered s) {generation : Nat} {phase : Phase}
    (hphase : generation = s.connectionGeneration → phase ≠ .returned) : Covered (s.setPhase generation phase) := by
  rcases h with hlive | hheld | ⟨attempt, hattempt, hcurrent, hopen⟩
  · exact .inl hlive
  · exact .inr (.inl hheld)
  · refine .inr (.inr ⟨_, List.mem_map_of_mem hattempt, ?_, ?_⟩)
    · split_ifs <;> exact hcurrent
    · split_ifs with hgeneration
      · exact hphase (hgeneration ▸ hcurrent)
      · exact hopen

/-- The stream of the current attempt, which has none beside it. -/
theorem Sound.openSource (h : Sound s) {attempt : Attempt} (hcurrent : attempt.generation = s.connectionGeneration)
    (hlisteners : s.listeners ≠ []) (hnone : ∀ source ∈ s.sources, source.live = false)
    (hreturned : ∀ other ∈ s.attempts, other.generation = s.connectionGeneration → other.phase = .returned) :
    Sound (s.openSource attempt) := by
  refine Sound.armWatchdog (s := { s with
    sources := s.sources ++ [{ id := s.sources.length, generation := attempt.generation, authKey := attempt.authKey }]
    masterEventSource := some s.sources.length }) ?_ _
  exact {
    timers := h.timers
    nodup := by
      show ((s.sources ++ [_]).map Source.id).Nodup
      rw [List.map_append, List.nodup_append]
      refine ⟨h.nodup, by simp, fun id hid other hother => ?_⟩
      obtain ⟨source, hsource, rfl⟩ := List.mem_map.mp hid
      obtain rfl : other = s.sources.length := by simpa using hother
      exact (h.below source hsource).ne
    below := by
      intro source hsource
      rw [List.length_append, List.length_singleton]
      rcases List.mem_append.mp hsource with hsource | hsource
      · exact Nat.lt_succ_of_lt (h.below source hsource)
      · rw [List.mem_singleton.mp hsource]
        exact Nat.lt_succ_self _
    live := by
      intro source hsource hlive
      rcases List.mem_append.mp hsource with hsource | hsource
      · exact absurd hlive (by simp [hnone source hsource])
      · rw [List.mem_singleton.mp hsource]
        exact ⟨rfl, hcurrent, rfl⟩
    apart := h.apart
    past := h.past
    current := fun other hother hgeneration =>
      ⟨(h.current other hother hgeneration).1, fun hopen => absurd (hreturned other hother hgeneration) hopen⟩
    aborted := h.aborted
    controller := h.controller
    promise := h.promise
    idle := fun hempty => absurd hempty hlisteners }

theorem covered_openSource {attempt : Attempt} : Covered (s.openSource attempt) :=
  .inl ⟨_, List.mem_append_right _ (List.mem_singleton_self _), rfl⟩

theorem Kept.ticketResponse (h : Kept s) {attempt : Attempt} (hattempt : attempt ∈ s.attempts)
    (hawaiting : attempt.phase = .awaiting) (ticket : Option Json) : Kept (ticketResponse s attempt ticket) := by
  have hnone (hcurrent : attempt.generation = s.connectionGeneration) : ∀ source ∈ s.sources, source.live = false :=
    (h.1.current attempt hattempt hcurrent).2 (by simp [hawaiting])
  unfold UseSse.ticketResponse
  split_ifs with hticket hstale
  · -- the attempt has been superseded: the current one has its ticket and its key, and listeners
    have hpast : attempt.generation ≠ s.connectionGeneration := by
      intro hcurrent
      rcases hstale with haborted | hother | hkey | hempty
      · exact absurd hcurrent (h.1.aborted _ haborted).ne
      · exact hother hcurrent
      · exact hkey (h.1.current attempt hattempt hcurrent).1
      · exact (h.1.idle hempty).2 attempt hattempt hcurrent
    exact ⟨h.1.setPhase fun hcurrent => absurd hcurrent hpast,
      fun hlisteners => (h.2 hlisteners).setPhase fun hcurrent => absurd hcurrent hpast⟩
  · push Not at hstale
    obtain ⟨-, hcurrent, -, hlisteners⟩ := hstale
    refine ⟨?_, fun _ => covered_openSource⟩
    refine (h.1.setPhase fun _ hopen => absurd rfl hopen).openSource hcurrent hlisteners (hnone hcurrent) ?_
    intro other hother hsame
    obtain ⟨before, -, hgeneration, -, hphase⟩ := mem_setPhase hother
    rw [hphase, if_pos (hgeneration.symm.trans (hsame.trans hcurrent.symm))]
  · exact ⟨h.1.setPhase fun hcurrent _ => hnone hcurrent,
      fun hlisteners => (h.2 hlisteners).setPhase fun _ => by simp⟩

theorem mem_forgetAttempt {attempt other : Attempt} :
    other ∈ (s.forgetAttempt attempt).attempts ↔ other ∈ s.attempts ∧ other.generation ≠ attempt.generation := by
  unfold State.forgetAttempt
  simp [List.mem_filter]

theorem Sound.forgetAttempt (h : Sound s) (attempt : Attempt) : Sound (s.forgetAttempt attempt) where
  timers := h.timers
  nodup := h.nodup
  below := h.below
  live := h.live
  apart := h.apart.sublist (List.filter_sublist.map _)
  past other hother := h.past other (mem_forgetAttempt.mp hother).1
  current other hother := h.current other (mem_forgetAttempt.mp hother).1
  aborted := h.aborted
  controller := h.controller
  promise generation hgeneration := by
    obtain ⟨hpromise, hother⟩ := Option.mem_filter_iff.mp hgeneration
    obtain ⟨kept, hkept, rfl, hcurrent⟩ := h.promise generation hpromise
    exact ⟨kept, mem_forgetAttempt.mpr ⟨hkept, by simpa using hother⟩, rfl, hcurrent⟩
  idle hnone := ⟨(h.idle hnone).1, fun other hother => (h.idle hnone).2 other (mem_forgetAttempt.mp hother).1⟩

/-- Without an attempt that has returned, or is not the current one, a page is still covered. -/
theorem Covered.forgetAttempt (hs : Sound s) (h : Covered s) {attempt : Attempt} (hattempt : attempt ∈ s.attempts)
    (hover : attempt.generation = s.connectionGeneration → attempt.phase = .returned) :
    Covered (s.forgetAttempt attempt) := by
  rcases h with hlive | hheld | ⟨other, hother, hcurrent, hopen⟩
  · exact .inl hlive
  · exact .inr (.inl hheld)
  · refine .inr (.inr ⟨other, mem_forgetAttempt.mpr ⟨hother, fun hsame => hopen ?_⟩, hcurrent, hopen⟩)
    rw [List.inj_on_of_nodup_map hs.apart hother hattempt hsame]
    exact hover (hsame.symm.trans hcurrent)

theorem forgetAttempt_scheduleReconnect {attempt : Attempt} :
    (s.scheduleReconnect c authKey).forgetAttempt attempt = (s.forgetAttempt attempt).scheduleReconnect c authKey := by
  unfold State.scheduleReconnect
  split_ifs with h h' h'
  · rfl
  · exact absurd h h'
  · exact absurd h' h
  · rfl

/-- What is left when the current attempt has thrown, without a stream. -/
theorem Sound.forgetCurrent (h : Sound s) {attempt : Attempt} (hcurrent : attempt.generation = s.connectionGeneration)
    (hnone : ∀ source ∈ s.sources, source.live = false) :
    Sound (State.forgetAttempt
      { s with currentAuthKey := none, connectionAbortController := none, masterEventSource := none } attempt) :=
  have hgone : ∀ other ∈ (s.forgetAttempt attempt).attempts, other.generation ≠ s.connectionGeneration :=
    fun other hother => hcurrent ▸ (mem_forgetAttempt.mp hother).2
  { h.forgetAttempt attempt with
    live := fun source hsource hlive => absurd hlive (by simp [hnone source hsource])
    current := fun other hother hsame => absurd hsame (hgone other hother)
    controller := by simp [State.forgetAttempt]
    idle := fun _ => ⟨rfl, hgone⟩ }

theorem Kept.attemptEnded (h : Kept s) {attempt : Attempt} (hattempt : attempt ∈ s.attempts)
    (hended : attempt.phase ≠ .awaiting) : Kept (attemptEnded browser s attempt) := by
  have hforget (hover : attempt.generation = s.connectionGeneration → attempt.phase = .returned) :
      Kept (s.forgetAttempt attempt) :=
    ⟨h.1.forgetAttempt attempt, fun hlisteners => (h.2 hlisteners).forgetAttempt h.1 hattempt hover⟩
  unfold UseSse.attemptEnded attemptThrown
  split_ifs with hthrown hown
  · obtain ⟨hcurrent, -⟩ := hown
    have hnone := (h.1.current attempt hattempt hcurrent).2 (by simp [hthrown])
    have hlisteners : s.listeners ≠ [] := fun hempty => (h.1.idle hempty).2 attempt hattempt hcurrent
    rw [forgetAttempt_scheduleReconnect]
    obtain ⟨hsound, hcovered⟩ := scheduleReconnect_spec (h.1.forgetCurrent hcurrent hnone) hlisteners attempt.authKey
    exact ⟨hsound, fun _ => hcovered⟩
  · refine hforget fun hcurrent => absurd ⟨hcurrent, ?_⟩ hown
    exact (h.1.current attempt hattempt hcurrent).1
  · refine hforget fun _ => ?_
    cases hphase : attempt.phase with
    | awaiting => exact absurd hphase hended
    | returned => rfl
    | thrown => exact absurd hphase hthrown

/-! ### Streams -/

theorem mem_setReadyState {id : Nat} {readyState : ReadyState} {source : Source}
    (h : source ∈ (s.setReadyState id readyState).sources) : ∃ before ∈ s.sources, source.id = before.id ∧
      source.generation = before.generation ∧ source.handled = before.handled ∧
        source.readyState = if before.id = id then readyState else before.readyState := by
  obtain ⟨before, hbefore, rfl⟩ := List.mem_map.mp h
  refine ⟨before, hbefore, ?_⟩
  split_ifs <;> exact ⟨rfl, rfl, rfl, rfl⟩

theorem map_id_setReadyState {id : Nat} {readyState : ReadyState} :
    (s.setReadyState id readyState).sources.map Source.id = s.sources.map Source.id := by
  unfold State.setReadyState
  rw [List.map_map]
  refine List.map_congr_left fun source _ => ?_
  show (if source.id = id then { source with readyState } else source).id = source.id
  split_ifs <;> rfl

theorem Sound.eq_of_id_eq (h : Sound s) {source other : Source} (hsource : source ∈ s.sources)
    (hother : other ∈ s.sources) (hid : source.id = other.id) : source = other :=
  List.inj_on_of_nodup_map h.nodup hsource hother hid

/-- A stream that is not closed changes its state. -/
theorem Sound.setReadyState (h : Sound s) {source : Source} (hsource : source ∈ s.sources) (hlive : source.live = true)
    (readyState : ReadyState) : Sound (s.setReadyState source.id readyState) := by
  have hbefore {other before : Source} (hmem : before ∈ s.sources) (hlive' : other.live = true)
      (hstate : other.readyState = if before.id = source.id then readyState else before.readyState) :
      before.live = true := by
    split_ifs at hstate with hid
    · rw [h.eq_of_id_eq hmem hsource hid]
      exact hlive
    · unfold Source.live at hlive' ⊢
      rw [← hstate]
      exact hlive'
  exact { h with
    nodup := by
      rw [map_id_setReadyState]
      exact h.nodup
    below := below_of_map map_id_setReadyState h.below
    live := by
      intro other hother hlive'
      obtain ⟨before, hmem, hid, hgeneration, hhandled, hstate⟩ := mem_setReadyState hother
      rw [hid, hgeneration, hhandled]
      exact h.live before hmem (hbefore hmem hlive' hstate)
    current := by
      intro attempt hattempt hcurrent
      obtain ⟨hkey, hnone⟩ := h.current attempt hattempt hcurrent
      refine ⟨hkey, fun hopen other hother => ?_⟩
      obtain ⟨before, hmem, -, -, -, hstate⟩ := mem_setReadyState hother
      by_contra hlive'
      rw [Bool.not_eq_false] at hlive'
      exact absurd (hbefore hmem hlive' hstate) (by simp [hnone hopen before hmem]) }

theorem Kept.sourceOpen (h : Kept s) {source : Source} (hsource : source ∈ s.sources)
    (hconnecting : source.readyState = .connecting) : Kept (sourceOpen s source).1 := by
  have hlive : source.live = true := by simp [Source.live, hconnecting]
  have hsound := h.1.setReadyState hsource hlive .open
  have hcovered : ∃ other ∈ (s.setReadyState source.id .open).sources, other.live = true :=
    ⟨_, List.mem_map_of_mem hsource, by simp [Source.live]⟩
  unfold UseSse.sourceOpen
  dsimp only
  split_ifs with hskip
  · exact ⟨hsound, fun _ => .inl hcovered⟩
  · exact ⟨(hsound.withTimers (hsound.timers.clear .reconnect)).armWatchdog source, fun _ => .inl hcovered⟩

theorem Kept.sourceError (h : Kept s) {source : Source} (hsource : source ∈ s.sources) (hlive : source.live = true)
    (readyState : ReadyState) : Kept (sourceError browser s source readyState) := by
  obtain ⟨hmaster, -, hhandled⟩ := h.1.live source hsource hlive
  have hlisteners : s.listeners ≠ [] := fun hempty => by
    rw [(h.1.idle hempty).1] at hmaster
    exact absurd hmaster (by simp)
  unfold UseSse.sourceError
  dsimp only
  rw [if_pos ⟨hhandled, hmaster⟩]
  obtain ⟨hsound, hcovered⟩ :=
    scheduleReconnect_spec (h.1.setReadyState hsource hlive readyState) hlisteners source.authKey
  exact ⟨hsound, fun _ => hcovered⟩

theorem Kept.armWatchdog (h : Kept s) (source : Source) : Kept (s.armWatchdog source) :=
  ⟨h.1.armWatchdog source, fun hlisteners => (h.2 hlisteners).armWatchdog source⟩

theorem Kept.sourceMessage (h : Kept s) (source : Source) (data : Option Json) :
    Kept (sourceMessage s source data).1 := by
  unfold UseSse.sourceMessage
  cases messageType data with
  | none => exact h
  | some message =>
    dsimp only
    split_ifs
    · exact h
    · exact h.armWatchdog source
    · exact h.armWatchdog source

/-! ### Timers -/

theorem Covered.fire (h : Covered s) {timer : Timer} (hkind : timer.callback.kind ≠ .reconnect) :
    Covered { s with timers := s.timers.fire timer } := by
  rcases h with hlive | hheld | hattempt
  · exact .inl hlive
  · refine .inr (.inl ?_)
    show Function.update s.timers.held timer.callback.kind none .reconnect ≠ none
    rwa [Function.update_of_ne hkind.symm]
  · exact .inr (.inr hattempt)

theorem Kept.timerFired (h : Kept s) {timer : Timer} (htimer : timer ∈ s.timers.pending) :
    Kept (timerFired browser s timer) := by
  have hsound : Sound { s with timers := s.timers.fire timer } := h.1.withTimers (h.1.timers.fire htimer)
  have hconnect (authKey : String) (hlisteners : s.listeners ≠ []) :
      Kept (State.connectSse browser { s with timers := s.timers.fire timer } authKey true) := by
    obtain ⟨hsound', hcovered⟩ := connectSse_spec hsound hlisteners authKey
    exact ⟨hsound', fun _ => hcovered⟩
  unfold UseSse.timerFired
  cases hcallback : timer.callback with
  | reconnect authKey =>
    dsimp only
    split_ifs with hskip
    · refine ⟨hsound, fun hlisteners => ?_⟩
      rcases hskip with hempty | hlost
      · exact absurd hempty hlisteners
      · exact absurd hlost (by decide)
    · push Not at hskip
      exact hconnect authKey hskip.1
  | watchdog generation source authKey =>
    have hkept : Kept { s with timers := s.timers.fire timer } :=
      ⟨hsound, fun hlisteners => (h.2 hlisteners).fire (by simp [hcallback, TimerCallback.kind])⟩
    dsimp only
    split_ifs with hstale hhidden
    · exact hkept
    · exact hkept.armWatchdog _
    · push Not at hstale
      exact hconnect authKey hstale.2.2

/-! ## Runs -/

theorem Kept.handle (h : Kept s) {event : Event} (hadmits : Admits s event) : Kept (handle browser s event).1 := by
  unfold UseSse.handle
  cases event with
  | mount types => exact h.mount types
  | unmount listener => exact h.unmount listener
  | tokenChanged newToken => exact h.tokenChanged newToken
  | online => exact h.reconnectVisibleSession
  | visibilityChange hidden => exact Kept.reconnectVisibleSession ⟨{ h.1 with }, h.2⟩
  | ticketResponse generation ticket =>
    dsimp only
    split
    · rename_i attempt hattempt
      have hawaiting := List.find?_some hattempt
      rw [Bool.and_eq_true, decide_eq_true_eq, decide_eq_true_eq] at hawaiting
      exact h.ticketResponse (List.mem_of_find?_eq_some hattempt) hawaiting.2 ticket
    · exact h
  | attemptEnded generation =>
    dsimp only
    split
    · rename_i attempt hattempt
      have hended := List.find?_some hattempt
      rw [Bool.and_eq_true, decide_eq_true_eq, decide_eq_true_eq] at hended
      exact h.attemptEnded (List.mem_of_find?_eq_some hattempt) hended.2
    · exact h
  | sourceOpen id =>
    dsimp only
    split
    · rename_i source hsource
      obtain ⟨other, hother, hid, hconnecting⟩ := hadmits
      have hmem := List.mem_of_find?_eq_some hsource
      have hsame : source.id = other.id := (by simpa using List.find?_some hsource : source.id = id).trans hid.symm
      exact h.sourceOpen hmem (h.1.eq_of_id_eq hmem hother hsame ▸ hconnecting)
    · exact h
  | sourceError id readyState =>
    dsimp only
    split
    · rename_i source hsource
      obtain ⟨-, other, hother, hid, hlive⟩ := hadmits
      have hmem := List.mem_of_find?_eq_some hsource
      have hsame : source.id = other.id := (by simpa using List.find?_some hsource : source.id = id).trans hid.symm
      exact h.sourceError hmem (h.1.eq_of_id_eq hmem hother hsame ▸ hlive) readyState
    · exact h
  | sourceMessage id data =>
    dsimp only
    split
    · exact h.sourceMessage _ data
    · exact h
  | timerFired id =>
    dsimp only
    split
    · rename_i timer htimer
      exact h.timerFired (List.mem_of_find?_eq_some htimer)
    · exact h

theorem kept_init (hidden : Bool) (accessToken : Option String) : Kept { hidden, accessToken } := by
  refine ⟨?_, fun hlisteners => absurd rfl hlisteners⟩
  constructor
  · constructor <;> simp
  all_goals simp

/-- The variables agree, and a page with listeners is covered, after every run. -/
theorem kept_of_run {history : List (Transition State Event)} (h : Run (useSse browser) history s) : Kept s := by
  refine h.always (P := fun _ => True) (I := Kept) ?_ ?_ fun _ _ => ⟨⟩
  · rintro _ ⟨hidden, accessToken, rfl⟩
    exact kept_init hidden accessToken
  · rintro a event _ hkept ⟨hadmits, rfl⟩ -
    exact hkept.handle hadmits

/-- The streams that are not closed are at most one. -/
theorem Sound.length_live (h : Sound s) : (s.sources.filter Source.live).length ≤ 1 := by
  have hnodup : ((s.sources.filter Source.live).map Source.id).Nodup := h.nodup.sublist (List.filter_sublist.map _)
  have hsame : ∀ source ∈ s.sources.filter Source.live, s.masterEventSource = some source.id := fun source hsource =>
    (h.live source (List.mem_of_mem_filter hsource) (List.mem_filter.mp hsource).2).1
  cases hfilter : s.sources.filter Source.live with
  | nil => simp
  | cons first rest =>
    cases rest with
    | nil => simp
    | cons second rest =>
      rw [hfilter] at hnodup hsame
      have hid : first.id = second.id :=
        Option.some.inj ((hsame first (by simp)).symm.trans (hsame second (by simp)))
      simp [hid] at hnodup

/-- A delivery is made by a stream that is not closed. -/
theorem deliveries_live {event : Event} (hadmits : Admits s event) {delivery : Delivery}
    (hdelivery : delivery ∈ (handle c s event).2) :
    ∃ source ∈ s.sources, source.live = true ∧ source.id = delivery.source := by
  unfold handle at hdelivery
  cases event with
  | sourceOpen id =>
    obtain ⟨other, hother, hid, hconnecting⟩ := hadmits
    dsimp only at hdelivery
    split at hdelivery
    · rename_i source hsource
      have hsame : source.id = id := by simpa using List.find?_some hsource
      refine ⟨other, hother, by simp [Source.live, hconnecting], ?_⟩
      unfold sourceOpen at hdelivery
      dsimp only at hdelivery
      split_ifs at hdelivery with hskip
      · simp at hdelivery
      · obtain ⟨listener, -, rfl⟩ := List.mem_map.mp hdelivery
        exact hid.trans hsame.symm
    · simp at hdelivery
  | sourceMessage id data =>
    obtain ⟨other, hother, hid, hopen⟩ := hadmits
    dsimp only at hdelivery
    split at hdelivery
    · rename_i source hsource
      have hsame : source.id = id := by simpa using List.find?_some hsource
      refine ⟨other, hother, by simp [Source.live, hopen], ?_⟩
      unfold sourceMessage at hdelivery
      cases hmessage : messageType data with
      | none => simp [hmessage] at hdelivery
      | some message =>
        simp only [hmessage] at hdelivery
        split_ifs at hdelivery with hskip hheartbeat
        · simp at hdelivery
        · simp at hdelivery
        · obtain ⟨listener, -, rfl⟩ := List.mem_map.mp hdelivery
          exact hid.trans hsame.symm
    · simp at hdelivery
  | ticketResponse generation ticket =>
    dsimp only at hdelivery
    split at hdelivery <;> simp at hdelivery
  | attemptEnded generation =>
    dsimp only at hdelivery
    split at hdelivery <;> simp at hdelivery
  | sourceError id readyState =>
    dsimp only at hdelivery
    split at hdelivery <;> simp at hdelivery
  | timerFired id =>
    dsimp only at hdelivery
    split at hdelivery <;> simp at hdelivery
  | _ => simp at hdelivery

/-- The one stream that is not closed makes a delivery. -/
theorem delivery_source (h : Sound s) {event : Event} (hadmits : Admits s event) {delivery : Delivery}
    (hdelivery : delivery ∈ (handle c s event).2) :
    (s.sources.filter Source.live).map Source.id = [delivery.source] := by
  obtain ⟨source, hsource, hlive, hid⟩ := deliveries_live hadmits hdelivery
  have hmem : source ∈ s.sources.filter Source.live := List.mem_filter.mpr ⟨hsource, hlive⟩
  have hlength := h.length_live
  cases hfilter : s.sources.filter Source.live with
  | nil =>
    rw [hfilter] at hmem
    exact absurd hmem (by simp)
  | cons first rest =>
    rw [hfilter, List.length_cons] at hlength
    obtain rfl : rest = [] := List.eq_nil_of_length_eq_zero (by omega)
    rw [hfilter, List.mem_singleton] at hmem
    rw [List.map_singleton, ← hmem, hid]

/-- After every run at most one stream is not closed, every delivery of the run was made by the one that was not, and
with listeners and no current attempt in flight there is such a stream or a pending timer. -/
theorem one_stream_never_silent {history : List (Transition State Event)} (h : Run (useSse browser) history s) :
    (s.sources.filter Source.live).length ≤ 1 ∧
      (∀ e ∈ history, ∀ delivery ∈ (handle browser e.before e.label).2,
        (e.before.sources.filter Source.live).map Source.id = [delivery.source]) ∧
      (s.listeners ≠ [] → (∀ attempt ∈ s.attempts, attempt.generation ≠ s.connectionGeneration) →
        (∃ source ∈ s.sources, source.live = true) ∨ s.timers.pending ≠ []) := by
  obtain ⟨hsound, hcovered⟩ := kept_of_run h
  refine ⟨hsound.length_live, fun e he delivery hdelivery => ?_, fun hlisteners hattempts => ?_⟩
  · obtain ⟨⟨hadmits, -⟩, earlier, hrun, -⟩ := h.reached e he
    exact delivery_source (kept_of_run hrun).1 hadmits hdelivery
  · rcases hcovered hlisteners with hlive | hheld | ⟨attempt, hattempt, hcurrent, -⟩
    · exact .inl hlive
    · obtain ⟨id, hid⟩ := Option.ne_none_iff_exists'.mp hheld
      obtain ⟨timer, htimer, -⟩ := hsound.timers.pending .reconnect id hid
      exact .inr (List.ne_nil_of_mem htimer)
    · exact absurd hcurrent (hattempts attempt hattempt)

end

/-- A page with one listener, before its ticket. -/
def mounted : State := (handle browser {} (.mount ["TICKET_UPDATED"])).1

def ticketed : State := (handle browser mounted (.ticketResponse 1 (some (.string "b1e0")))).1

def connected : State := (handle browser ticketed (.attemptEnded 1)).1

theorem connected_covered : connected.listeners ≠ [] ∧ connected.attempts = [] ∧
    ((∃ source ∈ connected.sources, source.live = true) ∨ connected.timers.pending ≠ []) := by
  have hmount : (useSse browser).step {} (.mount ["TICKET_UPDATED"]) mounted := ⟨⟨⟩, rfl⟩
  have hticket : (useSse browser).step mounted (.ticketResponse 1 (some (.string "b1e0"))) ticketed :=
    ⟨⟨_, List.mem_singleton_self _, rfl, rfl⟩, rfl⟩
  have hended : (useSse browser).step ticketed (.attemptEnded 1) connected :=
    ⟨⟨_, List.mem_singleton_self _, rfl, by decide⟩, rfl⟩
  have hloaded : Run (useSse browser) [] {} := .init ⟨false, none, rfl⟩
  have hconnected := ((hloaded.step hmount).step hticket).step hended
  exact ⟨by decide, by decide, (one_stream_never_silent hconnected).2.2 (by decide) (by decide)⟩

end ComplianceHub.Events.UseSse
