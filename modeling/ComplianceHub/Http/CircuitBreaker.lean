import ComplianceHub.Lib.Calls

/-!
# The circuit breaker of a client

* `CircuitBreaker` : `isOpen`, `recordSuccess`, `recordFailure`; `fetchWithRetry` : the calls that share a breaker;
* `OneProbeEachReset` : while the circuit is not closed, the calls it lets through are a reset timeout apart;
* `OldOutcomesKeep` : a call that began before the circuit opened neither closes nor extends it;
* `Tracks` : what the breaker knows of the calls it has let through;
* `breaker_admits_one_probe_iff` : the steps that a run must do without.

Times are milliseconds.
-/

namespace ComplianceHub.Http

open ComplianceHub.Lib

inductive CircuitState where
  | CLOSED
  | OPEN
  | HALF_OPEN
deriving DecidableEq, Repr

structure CircuitBreaker where
  state : CircuitState := .CLOSED
  consecutiveFailures : Nat := 0
  openedAt : Int := 0
deriving DecidableEq, Repr

def openThreshold : Nat := 5

def resetTimeoutMs : Int := 30000

namespace CircuitBreaker

def isOpen (circuit : CircuitBreaker) (now : Int) : Bool × CircuitBreaker :=
  match circuit.state with
  | .OPEN =>
    if resetTimeoutMs ≤ now - circuit.openedAt then (false, { circuit with state := .HALF_OPEN }) -- allow one probe
    else (true, circuit)
  | .CLOSED | .HALF_OPEN => (false, circuit)

def recordSuccess (circuit : CircuitBreaker) : CircuitBreaker :=
  { circuit with consecutiveFailures := 0, state := .CLOSED }

def recordFailure (circuit : CircuitBreaker) (now : Int) : CircuitBreaker :=
  let failed := { circuit with consecutiveFailures := circuit.consecutiveFailures + 1 }
  if circuit.state = .HALF_OPEN ∨ openThreshold ≤ failed.consecutiveFailures then
    { failed with state := .OPEN, openedAt := now }
  else failed

end CircuitBreaker

/-! ## Calls -/

structure UsersHttpClient where
  circuit : CircuitBreaker := {}
  /-- The time of the last step. -/
  clock : Int := 0
  /-- How often the circuit has opened. -/
  openings : Nat := 0
  /-- When the last call passed the breaker while the circuit was not closed. -/
  probedAt : Option Int := none
deriving DecidableEq, Repr

inductive Fetch where
  | idle (maxRetries : Nat)
  /-- The call has passed the breaker, when the circuit had opened so many times. -/
  | attempting (attempt maxRetries openings : Nat)
  /-- It has returned, with a result or with null. -/
  | returned (found : Bool)
deriving DecidableEq, Repr

/-- The time of a step, and whether the attempt has succeeded. -/
structure Response where
  now : Int
  ok : Bool := false
deriving DecidableEq, Repr

/-- The client after a failure has been recorded. -/
def UsersHttpClient.failed (client : UsersHttpClient) (now : Int) : UsersHttpClient :=
  let circuit := client.circuit.recordFailure now
  let opens := client.circuit.state ≠ .OPEN ∧ circuit.state = .OPEN
  { client with circuit, openings := if opens then client.openings + 1 else client.openings }

def fetchStep (client : UsersHttpClient) (call : Fetch) (response : Response) : Option (UsersHttpClient × Fetch) :=
  match call with
  | .idle maxRetries =>
    let (isOpen, circuit) := client.circuit.isOpen response.now
    if isOpen then some (client, .returned false)
    else
      let probedAt := if client.circuit.state = .CLOSED then client.probedAt else some response.now
      some ({ client with circuit, probedAt }, .attempting 0 maxRetries client.openings)
  | .attempting attempt maxRetries openings =>
    if response.ok then some ({ client with circuit := client.circuit.recordSuccess }, .returned true)
    else if attempt ≠ maxRetries then some (client, .attempting (attempt + 1) maxRetries openings)
    else some (client.failed response.now, .returned false)
  | .returned _ => none

/-- Time does not go back. -/
def fetchWithRetry : Calls UsersHttpClient Fetch Response where
  init client := client.circuit = {} ∧ client.openings = 0 ∧ client.probedAt = none
  start call := ∃ maxRetries, call = .idle maxRetries
  step client call response :=
    if response.now < client.clock then none else fetchStep { client with clock := response.now } call response

/-! ## What the breaker should do -/

section
variable {ι : Type}

abbrev FetchTransition (ι : Type) := Transition (Pool ι UsersHttpClient Fetch) (ι × Response)

/-- The call that takes the step, as it was. -/
def caller (e : FetchTransition ι) : Fetch := e.before.call e.label.1

def now (e : FetchTransition ι) : Int := e.label.2.now

/-- A call passes the breaker. -/
def Passes (e : FetchTransition ι) : Prop :=
  (∃ maxRetries, caller e = .idle maxRetries) ∧ (e.before.shared.circuit.isOpen (now e)).1 = false

/-- A call passes the breaker while the circuit is not closed. -/
def Probes (e : FetchTransition ι) : Prop := Passes e ∧ e.before.shared.circuit.state ≠ .CLOSED

def RecordsSuccess (e : FetchTransition ι) : Prop :=
  (∃ attempt maxRetries openings, caller e = .attempting attempt maxRetries openings) ∧ e.label.2.ok = true

/-- The outcome of a call is recorded that began before the circuit opened, which has not been closed since. -/
def RecordsOldOutcome (e : FetchTransition ι) : Prop :=
  ∃ attempt maxRetries openings, caller e = .attempting attempt maxRetries openings ∧
    openings < e.before.shared.openings ∧ e.before.shared.circuit.state ≠ .CLOSED ∧
    (e.label.2.ok = true ∨ attempt = maxRetries)

/-- Until the next success, a call passes a reset timeout after the probes before it. -/
def OneProbeEachReset (history : List (FetchTransition ι)) : Prop :=
  ∀ past e rest, history = past ++ e :: rest → Passes e →
    ∀ probe, Since Probes RecordsSuccess past probe → now probe + resetTimeoutMs ≤ now e

/-- A call that began before the circuit opened neither closes nor extends it. -/
def OldOutcomesKeep (history : List (FetchTransition ι)) : Prop :=
  ∀ e ∈ history, RecordsOldOutcome e → e.after.shared.circuit.state = e.before.shared.circuit.state ∧
    e.after.shared.circuit.openedAt = e.before.shared.circuit.openedAt

/-- What a step needs: a call that finds the circuit half open comes a reset timeout after the last probe; and no outcome
of an older call is recorded while the circuit is not closed, but for a failure at the time of the opening. -/
def Admissible (e : FetchTransition ι) : Prop :=
  match caller e with
  | .idle _ => e.before.shared.circuit.state = .HALF_OPEN →
      ∀ probedAt, e.before.shared.probedAt = some probedAt → probedAt + resetTimeoutMs ≤ now e
  | .attempting attempt maxRetries openings =>
      openings < e.before.shared.openings → e.before.shared.circuit.state ≠ .CLOSED →
        e.label.2.ok = true ∨ attempt = maxRetries →
          e.label.2.ok = false ∧ e.before.shared.circuit.state = .OPEN ∧ e.before.shared.circuit.openedAt = now e
  | .returned _ => True

instance (e : FetchTransition ι) : Decidable (Admissible e) := by
  unfold Admissible
  split
  · cases e.before.shared.probedAt with
    | none => exact isTrue (by simp)
    | some probedAt => exact decidable_of_iff (e.before.shared.circuit.state = .HALF_OPEN →
        probedAt + resetTimeoutMs ≤ now e) (by simp)
  · infer_instance
  · infer_instance

end

/-! ## Steps -/

theorem isOpen_eq_false_iff {circuit : CircuitBreaker} {time : Int} : (circuit.isOpen time).1 = false ↔
    (circuit.state = .OPEN → circuit.openedAt + resetTimeoutMs ≤ time) := by
  unfold CircuitBreaker.isOpen
  cases hstate : circuit.state with
  | OPEN =>
    dsimp only
    split_ifs with h
    · simp
      omega
    · simp
      omega
  | CLOSED => simp
  | HALF_OPEN => simp

/-- A call that passes leaves a closed circuit as it is, and half opens one that is not. -/
theorem isOpen_circuit {circuit : CircuitBreaker} {time : Int} (h : (circuit.isOpen time).1 = false) :
    (circuit.isOpen time).2 = if circuit.state = .CLOSED then circuit else { circuit with state := .HALF_OPEN } := by
  unfold CircuitBreaker.isOpen at h ⊢
  obtain ⟨state, failures, openedAt⟩ := circuit
  cases state with
  | OPEN =>
    dsimp only at h ⊢
    by_cases hreset : resetTimeoutMs ≤ time - openedAt
    · rw [if_pos hreset]
      rfl
    · rw [if_neg hreset] at h
      cases h
  | CLOSED => rfl
  | HALF_OPEN => rfl

/-- After so many failures one more opens the circuit, or extends it. -/
theorem recordFailure_of_failures {circuit : CircuitBreaker} (time : Int)
    (hfailures : openThreshold ≤ circuit.consecutiveFailures) :
    circuit.recordFailure time = ⟨.OPEN, circuit.consecutiveFailures + 1, time⟩ := by
  unfold CircuitBreaker.recordFailure
  rw [if_pos (.inr (by simp; omega))]

/-- What a step does: a call is skipped, or passes, or an attempt succeeds, is to be repeated, or has failed for good. -/
inductive Stepped (client : UsersHttpClient) (call : Fetch) (response : Response) : UsersHttpClient → Prop where
  | skipped (maxRetries : Nat) : call = .idle maxRetries → (client.circuit.isOpen response.now).1 = true →
      Stepped client call response { client with clock := response.now }
  | passes (maxRetries : Nat) : call = .idle maxRetries → (client.circuit.isOpen response.now).1 = false →
      Stepped client call response { client with
        clock := response.now, circuit := (client.circuit.isOpen response.now).2
        probedAt := if client.circuit.state = .CLOSED then client.probedAt else some response.now }
  | succeeded (attempt maxRetries openings : Nat) : call = .attempting attempt maxRetries openings → response.ok = true →
      Stepped client call response { client with clock := response.now, circuit := client.circuit.recordSuccess }
  | repeated (attempt maxRetries openings : Nat) : call = .attempting attempt maxRetries openings → response.ok = false →
      attempt ≠ maxRetries → Stepped client call response { client with clock := response.now }
  | failed (attempt openings : Nat) : call = .attempting attempt attempt openings → response.ok = false →
      Stepped client call response ({ client with clock := response.now }.failed response.now)

theorem stepped_of_step {client : UsersHttpClient} {call : Fetch} {response : Response} {r : UsersHttpClient × Fetch}
    (h : fetchWithRetry.step client call response = some r) :
    client.clock ≤ response.now ∧ Stepped client call response r.1 := by
  simp only [fetchWithRetry] at h
  split_ifs at h with hclock
  refine ⟨by omega, ?_⟩
  cases call with
  | idle maxRetries =>
    simp only [fetchStep] at h
    cases hopen : (client.circuit.isOpen response.now).1 with
    | true =>
      rw [hopen, if_pos rfl] at h
      obtain rfl := Option.some.inj h
      exact .skipped maxRetries rfl hopen
    | false =>
      rw [hopen, if_neg Bool.false_ne_true] at h
      obtain rfl := Option.some.inj h
      exact .passes maxRetries rfl hopen
  | attempting attempt maxRetries openings =>
    simp only [fetchStep] at h
    cases hok : response.ok with
    | true =>
      rw [hok, if_pos rfl] at h
      obtain rfl := Option.some.inj h
      exact .succeeded attempt maxRetries openings rfl hok
    | false =>
      rw [hok, if_neg Bool.false_ne_true] at h
      split_ifs at h with hlast
      · obtain rfl := Option.some.inj h
        exact .repeated attempt maxRetries openings rfl hok hlast
      · obtain rfl := Option.some.inj h
        obtain rfl : attempt = maxRetries := by simpa using hlast
        exact .failed attempt openings rfl hok
  | returned found => simp [fetchStep] at h

/-! ## What the breaker knows -/

section
variable {ι : Type} {history : List (FetchTransition ι)} {client : UsersHttpClient} {e probe : FetchTransition ι}

/-- The probes since the last success: the breaker knows the time of the last, and the circuit has opened after the first
of them that failed. A circuit that is not closed has had its failures. -/
structure Tracks (history : List (FetchTransition ι)) (client : UsersHttpClient) : Prop where
  clock : ∀ e ∈ history, now e ≤ client.clock
  failures : client.circuit.state ≠ .CLOSED → openThreshold ≤ client.circuit.consecutiveFailures
  probes : ∀ probe, Since Probes RecordsSuccess history probe → client.circuit.state ≠ .CLOSED ∧
    (∃ probedAt, client.probedAt = some probedAt ∧ now probe ≤ probedAt) ∧
    (client.circuit.state = .OPEN → now probe ≤ client.circuit.openedAt)
  halfOpen : client.circuit.state = .HALF_OPEN →
    ∃ probe, Since Probes RecordsSuccess history probe ∧ client.probedAt = some (now probe)

theorem Tracks.init (h : client.circuit = {}) : Tracks ([] : List (FetchTransition ι)) client := by
  constructor
  · simp
  · simp [h]
  · intro probe hprobe
    exact absurd hprobe not_since_nil
  · simp [h]

theorem Tracks.past (h : Tracks history client) (hclock : client.clock ≤ now e) :
    ∀ other ∈ history ++ [e], now other ≤ now e := by
  intro other hother
  rcases List.mem_append.mp hother with hother | hother
  · exact Int.le_trans (h.clock other hother) hclock
  · have hlast : other = e := List.mem_singleton.mp hother
    exact Int.le_of_eq (congrArg now hlast)

/-- A step that is no probe adds none. -/
theorem since_of_not_probes (hprobe : ¬ Probes e) (h : Since Probes RecordsSuccess (history ++ [e]) probe) :
    ¬ RecordsSuccess e ∧ Since Probes RecordsSuccess history probe := by
  rcases since_concat.mp h with ⟨-, hmarked⟩ | h
  · exact absurd hmarked hprobe
  · exact h

/-- A step that leaves the circuit. -/
theorem Tracks.quiet (h : Tracks history client) (hclock : client.clock ≤ now e) (hprobe : ¬ Probes e)
    (hsuccess : ¬ RecordsSuccess e) : Tracks (history ++ [e]) { client with clock := now e } := by
  constructor
  · exact h.past hclock
  · exact h.failures
  · intro probe hsince
    exact h.probes probe (since_of_not_probes hprobe hsince).2
  · intro hhalf
    obtain ⟨probe, hsince, hprobed⟩ := h.halfOpen hhalf
    exact ⟨probe, since_concat.mpr (.inr ⟨hsuccess, hsince⟩), hprobed⟩

theorem Tracks.halfOpened (h : Tracks history client) (hclock : client.clock ≤ now e) (hprobe : Probes e)
    (hstate : client.circuit.state ≠ .CLOSED) : Tracks (history ++ [e]) { client with
      clock := now e, circuit := { client.circuit with state := .HALF_OPEN }, probedAt := some (now e) } := by
  constructor
  · exact h.past hclock
  · intro _
    exact h.failures hstate
  · intro probe hsince
    refine ⟨by simp, ⟨now e, rfl, h.past hclock probe hsince.mem⟩, ?_⟩
    intro hopen
    cases hopen
  · intro _
    exact ⟨e, since_concat.mpr (.inl ⟨rfl, hprobe⟩), rfl⟩

theorem Tracks.success (h : Tracks history client) (hclock : client.clock ≤ now e) (hprobe : ¬ Probes e)
    (hsuccess : RecordsSuccess e) :
    Tracks (history ++ [e]) { client with clock := now e, circuit := client.circuit.recordSuccess } := by
  constructor
  · exact h.past hclock
  · simp [CircuitBreaker.recordSuccess]
  · intro probe hsince
    exact absurd hsuccess (since_of_not_probes hprobe hsince).1
  · simp [CircuitBreaker.recordSuccess]

theorem Tracks.failure (h : Tracks history client) (hclock : client.clock ≤ now e) (hprobe : ¬ Probes e) :
    Tracks (history ++ [e]) (({ client with clock := now e } : UsersHttpClient).failed (now e)) := by
  by_cases hopens : client.circuit.state = .HALF_OPEN ∨ openThreshold ≤ client.circuit.consecutiveFailures + 1
  · have hcircuit : client.circuit.recordFailure (now e) =
        ⟨.OPEN, client.circuit.consecutiveFailures + 1, now e⟩ := if_pos hopens
    constructor
    · exact h.past hclock
    · intro _
      show openThreshold ≤ (client.circuit.recordFailure (now e)).consecutiveFailures
      rw [hcircuit]
      rcases hopens with hhalf | hthreshold
      · have hfailures := h.failures (by simp [hhalf])
        show openThreshold ≤ client.circuit.consecutiveFailures + 1
        omega
      · exact hthreshold
    · intro probe hsince
      obtain ⟨-, hprobed, -⟩ := h.probes probe (since_of_not_probes hprobe hsince).2
      show (client.circuit.recordFailure (now e)).state ≠ .CLOSED ∧ _ ∧
        ((client.circuit.recordFailure (now e)).state = .OPEN →
          now probe ≤ (client.circuit.recordFailure (now e)).openedAt)
      rw [hcircuit]
      exact ⟨by simp, hprobed, fun _ => h.past hclock probe hsince.mem⟩
    · intro hhalf
      have hhalf : (client.circuit.recordFailure (now e)).state = .HALF_OPEN := hhalf
      rw [hcircuit] at hhalf
      cases hhalf
  · -- a circuit that is not closed has had its failures, so it stays closed
    have hclosed : client.circuit.state = .CLOSED := by
      by_contra hstate
      have hfailures := h.failures hstate
      omega
    have hcircuit : (client.circuit.recordFailure (now e)).state = .CLOSED := by
      unfold CircuitBreaker.recordFailure
      rw [if_neg hopens]
      exact hclosed
    constructor
    · exact h.past hclock
    · intro hstate
      exact absurd hcircuit hstate
    · intro probe hsince
      exact absurd hclosed (h.probes probe (since_of_not_probes hprobe hsince).2).1
    · intro hhalf
      have hhalf : (client.circuit.recordFailure (now e)).state = .HALF_OPEN := hhalf
      rw [hcircuit] at hhalf
      cases hhalf

theorem admissible_iff : Admissible e ↔
    ((∃ maxRetries, caller e = .idle maxRetries) → e.before.shared.circuit.state = .HALF_OPEN →
      ∀ probedAt, e.before.shared.probedAt = some probedAt → probedAt + resetTimeoutMs ≤ now e) ∧
    (RecordsOldOutcome e →
      e.label.2.ok = false ∧ e.before.shared.circuit.state = .OPEN ∧ e.before.shared.circuit.openedAt = now e) := by
  unfold Admissible RecordsOldOutcome
  cases hcall : caller e with
  | idle maxRetries => simp
  | attempting attempt maxRetries openings =>
    constructor
    · intro h
      refine ⟨by simp, ?_⟩
      rintro ⟨_, _, _, hsame, hold, hstate, hrecorded⟩
      obtain ⟨rfl, rfl, rfl⟩ := Fetch.attempting.inj hsame
      exact h hold hstate hrecorded
    · rintro ⟨-, h⟩ hold hstate hrecorded
      exact h ⟨attempt, maxRetries, openings, rfl, hold, hstate, hrecorded⟩
  | returned found => simp

variable [DecidableEq ι] {p : Pool ι UsersHttpClient Fetch}

theorem Tracks.step {l : ι × Response} {p' : Pool ι UsersHttpClient Fetch} (h : Tracks history p.shared)
    (hs : (fetchWithRetry.interleaved ι).step p l p') : Tracks (history ++ [⟨p, l, p'⟩]) p'.shared := by
  obtain ⟨i, response⟩ := l
  obtain ⟨⟨client, call⟩, hr, rfl⟩ := hs
  obtain ⟨hclock, hstepped⟩ := stepped_of_step hr
  -- an attempt is no probe, and a check records nothing
  have hattempt : ∀ attempt maxRetries openings, p.call i = .attempting attempt maxRetries openings →
      ¬ Probes (⟨p, (i, response), p.after i (client, call)⟩ : FetchTransition ι) := by
    rintro attempt maxRetries openings hcall ⟨⟨⟨_, hidle⟩, -⟩, -⟩
    exact Fetch.noConfusion (hcall.symm.trans hidle)
  have hcheck : ∀ maxRetries, p.call i = .idle maxRetries →
      ¬ RecordsSuccess (⟨p, (i, response), p.after i (client, call)⟩ : FetchTransition ι) := by
    rintro maxRetries hidle ⟨⟨_, _, _, hcall⟩, -⟩
    exact Fetch.noConfusion (hcall.symm.trans hidle)
  show Tracks _ client
  cases hstepped with
  | skipped maxRetries hcall hopen =>
    refine h.quiet hclock ?_ (hcheck maxRetries hcall)
    rintro ⟨⟨-, hpasses⟩, -⟩
    exact Bool.false_ne_true (hpasses.symm.trans hopen)
  | passes maxRetries hcall hopen =>
    rw [isOpen_circuit hopen]
    by_cases hclosed : p.shared.circuit.state = .CLOSED
    · rw [if_pos hclosed, if_pos hclosed]
      refine h.quiet hclock ?_ (hcheck maxRetries hcall)
      rintro ⟨-, hstate⟩
      exact hstate hclosed
    · rw [if_neg hclosed, if_neg hclosed]
      exact h.halfOpened hclock ⟨⟨⟨maxRetries, hcall⟩, hopen⟩, hclosed⟩ hclosed
  | succeeded attempt maxRetries openings hcall hok =>
    exact h.success hclock (hattempt _ _ _ hcall) ⟨⟨attempt, maxRetries, openings, hcall⟩, hok⟩
  | repeated attempt maxRetries openings hcall hok hlast =>
    refine h.quiet hclock (hattempt _ _ _ hcall) ?_
    rintro ⟨-, hsucceeds⟩
    rw [hok] at hsucceeds
    cases hsucceeds
  | failed attempt openings hcall hok => exact h.failure hclock (hattempt _ _ _ hcall)

theorem tracks_of_run (h : Run (fetchWithRetry.interleaved ι) history p) : Tracks history p.shared := by
  refine Run.invariant (P := fun _ => True) (I := fun history p => Tracks history p.shared) ?_ ?_ h fun _ _ => trivial
  · rintro p ⟨⟨hcircuit, -, -⟩, -⟩
    exact .init hcircuit
  · intro history p l p' _ htracks hs _
    exact htracks.step hs

/-! ## The two properties -/

/-- The calls that pass are a reset timeout apart exactly where those that find the circuit half open are. -/
theorem oneProbeEachReset_iff (h : Run (fetchWithRetry.interleaved ι) history p) :
    OneProbeEachReset history ↔ ∀ e ∈ history, (∃ maxRetries, caller e = .idle maxRetries) →
      e.before.shared.circuit.state = .HALF_OPEN →
        ∀ probedAt, e.before.shared.probedAt = some probedAt → probedAt + resetTimeoutMs ≤ now e := by
  constructor
  · intro hone e he hidle hhalf probedAt hprobedAt
    obtain ⟨past, rest, rfl⟩ := List.append_of_mem he
    obtain ⟨hrun, -, -⟩ := h.around
    obtain ⟨probe, hsince, hprobed⟩ := (tracks_of_run hrun).halfOpen hhalf
    have hpasses : Passes e := ⟨hidle, isOpen_eq_false_iff.mpr (by simp [hhalf])⟩
    rw [hprobedAt] at hprobed
    rw [Option.some.inj hprobed]
    exact hone past e rest rfl hpasses probe hsince
  · rintro hcond past e rest rfl ⟨hidle, hopen⟩ probe hsince
    obtain ⟨hrun, -, -⟩ := h.around
    obtain ⟨hstate, ⟨probedAt, hprobedAt, hle⟩, hopened⟩ := (tracks_of_run hrun).probes probe hsince
    cases hcircuit : e.before.shared.circuit.state with
    | CLOSED => exact absurd hcircuit hstate
    | OPEN =>
      have hreset := isOpen_eq_false_iff.mp hopen hcircuit
      have hprobe := hopened hcircuit
      omega
    | HALF_OPEN =>
      have hapart := hcond e (by simp) hidle hcircuit probedAt hprobedAt
      omega

/-- What the outcome of an older call does. -/
theorem oldOutcome_keeps_iff {i : ι} {response : Response} {r : UsersHttpClient × Fetch}
    (htracks : Tracks history p.shared) (hr : fetchWithRetry.step p.shared (p.call i) response = some r)
    (hold : RecordsOldOutcome (⟨p, (i, response), p.after i r⟩ : FetchTransition ι)) :
    (r.1.circuit.state = p.shared.circuit.state ∧ r.1.circuit.openedAt = p.shared.circuit.openedAt) ↔
      response.ok = false ∧ p.shared.circuit.state = .OPEN ∧ p.shared.circuit.openedAt = response.now := by
  obtain ⟨attempt, maxRetries, openings, hcall, -, hstate, hrecorded⟩ := hold
  have hcall : p.call i = .attempting attempt maxRetries openings := hcall
  have hrecorded : response.ok = true ∨ attempt = maxRetries := hrecorded
  obtain ⟨client, call⟩ := r
  obtain ⟨-, hstepped⟩ := stepped_of_step hr
  dsimp only at hstepped ⊢
  cases hstepped with
  | skipped maxRetries hidle hopen => exact Fetch.noConfusion (hcall.symm.trans hidle)
  | passes maxRetries hidle hopen => exact Fetch.noConfusion (hcall.symm.trans hidle)
  | succeeded _ _ _ _ hok =>
    constructor
    · rintro ⟨hsame, -⟩
      exact absurd hsame.symm hstate
    · rintro ⟨hfails, -⟩
      rw [hok] at hfails
      cases hfails
  | repeated _ _ _ hsame hok hlast =>
    obtain ⟨rfl, rfl, -⟩ := Fetch.attempting.inj (hcall.symm.trans hsame)
    rcases hrecorded with hsucceeds | heq
    · rw [hok] at hsucceeds
      cases hsucceeds
    · exact absurd heq hlast
  | failed _ _ _ hok =>
    have hcircuit := recordFailure_of_failures response.now (htracks.failures hstate)
    show ((p.shared.circuit.recordFailure response.now).state = _ ∧
      (p.shared.circuit.recordFailure response.now).openedAt = _) ↔ _
    rw [hcircuit]
    constructor
    · rintro ⟨hopen, hat⟩
      exact ⟨hok, hopen.symm, hat.symm⟩
    · rintro ⟨-, hopen, hat⟩
      exact ⟨hopen.symm, hat.symm⟩

/-- The outcomes of older calls keep the circuit exactly where none is recorded but at the time of the opening. -/
theorem oldOutcomesKeep_iff (h : Run (fetchWithRetry.interleaved ι) history p) :
    OldOutcomesKeep history ↔ ∀ e ∈ history, RecordsOldOutcome e →
      e.label.2.ok = false ∧ e.before.shared.circuit.state = .OPEN ∧ e.before.shared.circuit.openedAt = now e := by
  have hkeeps : ∀ e ∈ history, RecordsOldOutcome e →
      ((e.after.shared.circuit.state = e.before.shared.circuit.state ∧
          e.after.shared.circuit.openedAt = e.before.shared.circuit.openedAt) ↔
        e.label.2.ok = false ∧ e.before.shared.circuit.state = .OPEN ∧ e.before.shared.circuit.openedAt = now e) := by
    rintro ⟨p, ⟨i, response⟩, p'⟩ he hold
    obtain ⟨past, rest, rfl⟩ := List.append_of_mem he
    obtain ⟨hrun, ⟨r, hr, hafter⟩, -⟩ := h.around
    obtain rfl : p' = p.after i r := hafter
    exact oldOutcome_keeps_iff (tracks_of_run hrun) hr hold
  constructor
  · intro hkeep e he hold
    exact (hkeeps e he hold).mp (hkeep e he hold)
  · intro hcond e he hold
    exact (hkeeps e he hold).mpr (hcond e he hold)

/-- The breaker admits one probe, and no call from before an opening touches it, in exactly the runs without a second
call in the half open circuit within the reset timeout, and without a late outcome. -/
theorem breaker_admits_one_probe_iff (h : Run (fetchWithRetry.interleaved ι) history p) :
    (OneProbeEachReset history ∧ OldOutcomesKeep history) ↔ ∀ e ∈ history, Admissible e := by
  rw [oneProbeEachReset_iff h, oldOutcomesKeep_iff h]
  simp only [admissible_iff]
  constructor
  · rintro ⟨hprobe, hold⟩ e he
    exact ⟨hprobe e he, hold e he⟩
  · intro h
    exact ⟨fun e he => (h e he).1, fun e he => (h e he).2⟩

end

/-! ## An outage -/

/-- Calls with two retries each, before any of them has begun. -/
def callers : Pool Nat UsersHttpClient Fetch where
  shared := {}
  call _ := .idle 2

theorem callers_init : (fetchWithRetry.interleaved Nat).init callers :=
  ⟨⟨rfl, rfl, rfl⟩, fun _ => ⟨2, rfl⟩⟩

def attempts (i : Nat) (time : Int) : List (Nat × Response) := List.replicate 3 (i, { now := time })

/-- Six calls begin, and five of them have failed after a second. -/
def outage : List (Nat × Response) :=
  ([0, 1, 2, 3, 4, 5].map fun i => (i, { now := 0 })) ++ [0, 1, 2, 3, 4].flatMap fun i => attempts i 1000

/-- After the reset timeout two calls probe the service at once; and the sixth of the first calls fails late, which
extends the circuit. -/
theorem breaker_admits_two_probes :
    (¬ ∀ (history : List (FetchTransition Nat)) (p : Pool Nat UsersHttpClient Fetch),
      Run (fetchWithRetry.interleaved Nat) history p → OneProbeEachReset history) ∧
    ¬ ∀ (history : List (FetchTransition Nat)) (p : Pool Nat UsersHttpClient Fetch),
      Run (fetchWithRetry.interleaved Nat) history p → OldOutcomesKeep history := by
  constructor
  · intro h
    have hlog : (fetchWithRetry.execute callers (outage ++ [(6, { now := 31000 }), (7, { now := 31000 })])).any
        (fun log => log.1.any fun e => decide (caller e = .idle 2 ∧ e.before.shared.circuit.state = .HALF_OPEN ∧
          e.before.shared.probedAt = some (now e))) = true := by
      decide +kernel
    obtain ⟨log, hexecute, hlog⟩ := (Option.any_eq_true _ _).mp hlog
    obtain ⟨e, he, hsecond⟩ := List.any_eq_true.mp hlog
    obtain ⟨hidle, hhalf, hprobed⟩ := of_decide_eq_true hsecond
    have hrun := Calls.run_of_execute callers_init hexecute
    have hapart := (oneProbeEachReset_iff hrun).mp (h _ _ hrun) e he ⟨2, hidle⟩ hhalf _ hprobed
    unfold resetTimeoutMs at hapart
    omega
  · intro h
    have hlog : (fetchWithRetry.execute callers (outage ++ attempts 5 2000)).any (fun log =>
        log.1.any fun e => decide (caller e = .attempting 2 2 0 ∧ 0 < e.before.shared.openings ∧
          e.before.shared.circuit.state = .OPEN ∧
          e.after.shared.circuit.openedAt ≠ e.before.shared.circuit.openedAt)) = true := by
      decide +kernel
    obtain ⟨log, hexecute, hlog⟩ := (Option.any_eq_true _ _).mp hlog
    obtain ⟨e, he, hlate⟩ := List.any_eq_true.mp hlog
    obtain ⟨hcall, hopenings, hopen, hextends⟩ := of_decide_eq_true hlate
    have hold : RecordsOldOutcome e := by
      refine ⟨2, 2, 0, hcall, hopenings, ?_, .inr rfl⟩
      rw [hopen]
      decide
    exact hextends (h _ _ (Calls.run_of_execute callers_init hexecute) e he hold).2

/-- The same outage, one probe after it, and the next after its success. -/
theorem one_probe_after_the_outage : ∃ history p, Run (fetchWithRetry.interleaved Nat) history p ∧
    p.shared.circuit.state = .CLOSED ∧ OneProbeEachReset history ∧ OldOutcomesKeep history := by
  have hlog : (fetchWithRetry.execute callers (([0, 1, 2, 3, 4].map fun i => (i, { now := 0 })) ++
      ([0, 1, 2, 3, 4].flatMap fun i => attempts i 1000) ++
      [(6, { now := 31000 }), (6, { now := 31500, ok := true }), (7, { now := 31500 })])).any (fun log =>
      decide (log.2.shared.circuit.state = .CLOSED) && log.1.all fun e => decide (Admissible e)) = true := by
    decide +kernel
  obtain ⟨log, hexecute, hlog⟩ := (Option.any_eq_true _ _).mp hlog
  rw [Bool.and_eq_true, decide_eq_true_eq, List.all_eq_true] at hlog
  have hrun := Calls.run_of_execute callers_init hexecute
  exact ⟨_, _, hrun, hlog.1, (breaker_admits_one_probe_iff hrun).mpr fun e he => of_decide_eq_true (hlog.2 e he)⟩

end ComplianceHub.Http
