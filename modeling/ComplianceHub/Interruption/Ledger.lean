import ComplianceHub.Lib.IntOrder
import Mathlib.Order.WithBot
import Mathlib.Data.List.Basic

/-!
# The interruption ledger

`ticket-interruptions.ts`: the ledger of pause and freeze intervals a ticket carries. A stored date text is
the value `Date.parse` reads from it, `none` for a text it does not parse. A stored JSON value of another
shape is a missing ledger, which `usableInterruptionHistory` treats alike.

* `usableInterruptionHistory`, `recordInterruptionTransition` : the check of a stored ledger and its only writer;
* `periods` : the maximal interruption periods of a status timeline (`periodsFrom_concat` : of a longer one;
  `endAt_eq_none_iff` : which period is open);
* `Mirrors` : a ledger is the complete record of a timeline. It holds of a new ledger (`mirrors_new`), makes it
  usable (`Mirrors.usable`) and is kept by recording the next change (`Mirrors.record`).
-/

namespace ComplianceHub

inductive TicketStatus where
  | open
  | assigned
  | in_progress
  | resolved
  | closed
  /-- Ticket is temporarily put on hold for third party. -/
  | freeze
  /-- Ticket is paused waiting for user reply. -/
  | pause
  /-- Ticket is a duplicate of an existing open ticket. -/
  | duplicate
  | cancelled
deriving DecidableEq, Repr

/-- The text of a stored status. -/
def TicketStatus.text : TicketStatus → String
  | .open => "open"
  | .assigned => "assigned"
  | .in_progress => "in_progress"
  | .resolved => "resolved"
  | .closed => "closed"
  | .freeze => "freeze"
  | .pause => "pause"
  | .duplicate => "duplicate"
  | .cancelled => "cancelled"

namespace Interruption

inductive InterruptionKind where
  | pause
  | freeze
deriving DecidableEq, Repr

def InterruptionKind.status : InterruptionKind → TicketStatus
  | .pause => .pause
  | .freeze => .freeze

/-- A stored date text, read by `Date.parse`. -/
abbrev DateText := Option Int

structure TicketInterruption where
  kind : InterruptionKind
  startAt : DateText
  endAt : Option DateText
deriving DecidableEq, Repr

structure TicketInterruptionHistory where
  version : Nat
  capturedFrom : DateText
  complete : Bool
  intervals : List TicketInterruption
deriving DecidableEq, Repr

/-- `now.toISOString()`. -/
def toISOString (now : Int) : DateText := some now

def newInterruptionHistory (now : Int) : TicketInterruptionHistory :=
  { version := 1, capturedFrom := toISOString now, complete := true, intervals := [] }

/-- `interval.endAt === null ? Infinity : Date.parse(interval.endAt)`. -/
def endTime (endAt : Option DateText) : Option (WithTop Int) :=
  match endAt with
  | none => some ⊤
  | some text => text.map WithTop.some

/-- The interval loop of `usableInterruptionHistory`, from the end of the interval before. -/
def usableIntervals (lastEnd : WithTop Int) : List TicketInterruption → Bool
  | [] => true
  | interval :: rest =>
    match interval.startAt, endTime interval.endAt with
    | some start, some stop =>
      !(stop < (start : WithTop Int)) && !((start : WithTop Int) < lastEnd) &&
        !(stop = ⊤ && !rest.isEmpty) && usableIntervals stop rest
    | _, _ => false

def usableInterruptionHistory (value : Option TicketInterruptionHistory) : Option TicketInterruptionHistory :=
  value.filter fun history =>
    history.version = 1 && match history.capturedFrom with
      | some captured => usableIntervals captured history.intervals
      | none => false

/-- The interruption kind of a status. -/
def kind : TicketStatus → Option InterruptionKind
  | .pause => some .pause
  | .freeze => some .freeze
  | _ => none

theorem kind_eq_some {s : TicketStatus} {k : InterruptionKind} : kind s = some k ↔ s = k.status := by
  cases s <;> cases k <;> decide

/-- Close the last interval if it is open, not before its start. -/
def closeOpen (intervals : List TicketInterruption) (now : Int) : List TicketInterruption :=
  match intervals.getLast? with
  | some interval =>
    if interval.endAt = none then
      intervals.dropLast ++ [{ interval with endAt := some (interval.startAt.map fun start => max now start) }]
    else intervals
  | none => intervals

def recordInterruptionTransition (interruptionHistory : Option TicketInterruptionHistory) (fromStatus toStatus : TicketStatus)
    (now : Int) : Option TicketInterruptionHistory :=
  if fromStatus = toStatus then interruptionHistory
  else if kind fromStatus = none ∧ kind toStatus = none then interruptionHistory
  else
    let history := (usableInterruptionHistory interruptionHistory).getD
      { version := 1, capturedFrom := toISOString now, complete := false, intervals := [] }
    let intervals := closeOpen history.intervals now
    let intervals := match kind toStatus with
      | some k => intervals ++ [{ kind := k, startAt := toISOString now, endAt := none }]
      | none => intervals
    some { history with intervals := intervals }

@[simp] theorem record_self (history : Option TicketInterruptionHistory) (s : TicketStatus) (now : Int) :
    recordInterruptionTransition history s s now = history := by
  simp [recordInterruptionTransition]

/-- A step between two statuses that are no interruption leaves the ledger alone. -/
theorem record_of_kind_none {fromStatus toStatus : TicketStatus} (hf : kind fromStatus = none)
    (ht : kind toStatus = none) (history : Option TicketInterruptionHistory) (now : Int) :
    recordInterruptionTransition history fromStatus toStatus now = history := by
  simp [recordInterruptionTransition, hf, ht]

/-! ## Periods of a status timeline -/

/-- The maximal periods of a timeline, after a period `current` that is still running. A timeline lists the
times and the statuses entered at them. -/
def periodsFrom : Option (InterruptionKind × Int) → List (Int × TicketStatus) → List TicketInterruption
  | none, [] => []
  | some (k, since), [] => [⟨k, toISOString since, none⟩]
  | none, (at', s) :: rest => periodsFrom ((kind s).map fun k => (k, at')) rest
  | some (k, since), (at', s) :: rest =>
    if kind s = some k then periodsFrom (some (k, since)) rest
    else ⟨k, toISOString since, some (toISOString at')⟩ :: periodsFrom ((kind s).map fun k => (k, at')) rest

/-- The maximal periods a timeline spends in pause or in freeze. -/
def periods (timeline : List (Int × TicketStatus)) : List TicketInterruption := periodsFrom none timeline

/-- The interruption a timeline ends in. -/
def lastKind (current : Option (InterruptionKind × Int)) (timeline : List (Int × TicketStatus)) : Option InterruptionKind :=
  match timeline.getLast? with
  | some (_, s) => kind s
  | none => current.map Prod.fst

theorem lastKind_cons (current next : Option (InterruptionKind × Int)) (e : Int × TicketStatus)
    (timeline : List (Int × TicketStatus)) (h : next.map Prod.fst = kind e.2) :
    lastKind current (e :: timeline) = lastKind next timeline := by
  cases timeline with
  | nil => simp [lastKind, h]
  | cons e' rest =>
    simp only [lastKind, List.getLast?_cons_cons, List.getLast?_eq_some_getLast (List.cons_ne_nil e' rest)]

theorem closeOpen_cons_of_ne_nil (i : TicketInterruption) {l : List TicketInterruption} (h : l ≠ []) (now : Int) :
    closeOpen (i :: l) now = i :: closeOpen l now := by
  obtain ⟨l', j, rfl⟩ := List.eq_nil_or_concat l |>.resolve_left h
  simp only [closeOpen, List.concat_eq_append, ← List.cons_append, List.getLast?_concat, List.dropLast_concat]
  split_ifs <;> rfl

theorem closeOpen_cons_closed {i : TicketInterruption} (hi : i.endAt ≠ none) (l : List TicketInterruption) (now : Int) :
    closeOpen (i :: l) now = i :: closeOpen l now := by
  cases l with
  | nil => simp [closeOpen, hi]
  | cons j l => exact closeOpen_cons_of_ne_nil i (List.cons_ne_nil j l) now

theorem periodsFrom_concat (now : Int) (s : TicketStatus) :
    ∀ (timeline : List (Int × TicketStatus)) (current : Option (InterruptionKind × Int)),
      (∀ e ∈ timeline, e.1 ≤ now) → (∀ c ∈ current, c.2 ≤ now) →
      periodsFrom current (timeline ++ [(now, s)]) =
        if kind s ≠ none ∧ kind s = lastKind current timeline then periodsFrom current timeline
        else closeOpen (periodsFrom current timeline) now ++
          ((kind s).map fun k => { kind := k, startAt := toISOString now, endAt := none }).toList := by
  intro timeline
  induction timeline with
  | nil =>
    intro current _ hc
    cases current with
    | none =>
      cases hk : kind s <;> simp [periodsFrom, lastKind, closeOpen, hk]
    | some c =>
      obtain ⟨k, since⟩ := c
      have hle : since ≤ now := hc _ rfl
      by_cases h : kind s = some k
      · simp [periodsFrom, lastKind, h]
      · have hne : ¬ (kind s ≠ none ∧ kind s = lastKind (some (k, since)) []) := fun hh => h (by simpa [lastKind] using hh.2)
        rw [if_neg hne]
        cases hk : kind s <;>
          simp_all [periodsFrom, closeOpen, toISOString]
  | cons e timeline ih =>
    intro current ht hc
    obtain ⟨at', u⟩ := e
    have hat : at' ≤ now := ht (at', u) (List.mem_cons_self)
    have htl : ∀ e ∈ timeline, e.1 ≤ now := fun e he => ht e (List.mem_cons_of_mem _ he)
    have hnext : ∀ c ∈ (kind u).map (fun k => (k, at')), c.2 ≤ now := by
      intro c hc
      obtain ⟨k, -, rfl⟩ := Option.map_eq_some_iff.mp hc
      exact hat
    have hfst : ((kind u).map fun k => (k, at')).map Prod.fst = kind u := by
      cases kind u <;> rfl
    cases current with
    | none =>
      rw [lastKind_cons none _ (at', u) timeline hfst]
      exact ih _ htl hnext
    | some c =>
      obtain ⟨k, since⟩ := c
      by_cases h : kind u = some k
      · rw [lastKind_cons _ (some (k, since)) (at', u) timeline (by simp [h])]
        simp only [List.cons_append, periodsFrom, h, if_true]
        exact ih _ htl hc
      · rw [lastKind_cons _ _ (at', u) timeline hfst]
        simp only [List.cons_append, periodsFrom, h, if_false]
        rw [ih _ htl hnext]
        split_ifs
        · rfl
        · rw [closeOpen_cons_closed (by simp)]
          rfl

/-- A timeline that ends in no interruption has no open period. -/
theorem closeOpen_periodsFrom (now : Int) :
    ∀ (timeline : List (Int × TicketStatus)) (current : Option (InterruptionKind × Int)),
      lastKind current timeline = none → closeOpen (periodsFrom current timeline) now = periodsFrom current timeline := by
  intro timeline
  induction timeline with
  | nil =>
    intro current h
    cases current with
    | none => rfl
    | some c => simp [lastKind] at h
  | cons e timeline ih =>
    intro current h
    obtain ⟨at', u⟩ := e
    have hfst : ((kind u).map fun k => (k, at')).map Prod.fst = kind u := by
      cases kind u <;> rfl
    cases current with
    | none =>
      rw [lastKind_cons none _ (at', u) timeline hfst] at h
      exact ih _ h
    | some c =>
      obtain ⟨k, since⟩ := c
      by_cases hk : kind u = some k
      · rw [lastKind_cons _ (some (k, since)) (at', u) timeline (by simp [hk])] at h
        simp only [periodsFrom, hk, if_true]
        exact ih _ h
      · rw [lastKind_cons _ _ (at', u) timeline hfst] at h
        simp only [periodsFrom, hk, if_false]
        rw [closeOpen_cons_closed (by simp), ih _ h]

/-- The periods of a timeline in time order are a usable list of intervals. -/
theorem usableIntervals_periodsFrom :
    ∀ (timeline : List (Int × TicketStatus)) (current : Option (InterruptionKind × Int)) (lastEnd : Int),
      timeline.Pairwise (fun e f => e.1 ≤ f.1) → (∀ e ∈ timeline, lastEnd ≤ e.1) →
      (∀ c ∈ current, lastEnd ≤ c.2 ∧ ∀ e ∈ timeline, c.2 ≤ e.1) →
      usableIntervals lastEnd (periodsFrom current timeline) = true := by
  intro timeline
  induction timeline with
  | nil =>
    intro current lastEnd _ _ hc
    cases current with
    | none => rfl
    | some c =>
      obtain ⟨k, since⟩ := c
      have := (hc _ rfl).1
      simp [periodsFrom, usableIntervals, endTime, toISOString, this]
  | cons e timeline ih =>
    intro current lastEnd hp hl hc
    obtain ⟨at', u⟩ := e
    have hat : lastEnd ≤ at' := hl (at', u) List.mem_cons_self
    obtain ⟨hhead, htail⟩ := List.pairwise_cons.mp hp
    have hnext : ∀ last, last ≤ at' → usableIntervals last (periodsFrom ((kind u).map fun k => (k, at')) timeline) = true := by
      intro last hlast
      refine ih _ _ htail (fun e he => hlast.trans (hhead e he)) fun c hc => ?_
      obtain ⟨k, -, rfl⟩ := Option.map_eq_some_iff.mp hc
      exact ⟨hlast, fun e he => hhead e he⟩
    cases current with
    | none => exact hnext _ hat
    | some c =>
      obtain ⟨k, since⟩ := c
      obtain ⟨h1, h2⟩ := hc _ rfl
      have hsince : since ≤ at' := h2 _ List.mem_cons_self
      by_cases hk : kind u = some k
      · simp only [periodsFrom, hk, if_true]
        refine ih _ _ htail (fun e he => hl e (List.mem_cons_of_mem _ he)) fun c hc => ?_
        obtain rfl := Option.some.inj hc
        exact ⟨h1, fun e he => h2 e (List.mem_cons_of_mem _ he)⟩
      · simp only [periodsFrom, hk, if_false, usableIntervals, endTime, toISOString, Option.map_some]
        simp [hnext at' le_rfl, not_lt.mpr hsince, not_lt.mpr h1]

theorem periodsFrom_ne_nil :
    ∀ (timeline : List (Int × TicketStatus)) (current : Option (InterruptionKind × Int)),
      lastKind current timeline ≠ none → periodsFrom current timeline ≠ [] := by
  intro timeline
  induction timeline with
  | nil =>
    intro current h
    cases current with
    | none => exact absurd rfl h
    | some c => simp [periodsFrom]
  | cons e timeline ih =>
    intro current h
    obtain ⟨at', u⟩ := e
    have hfst : ((kind u).map fun k => (k, at')).map Prod.fst = kind u := by
      cases kind u <;> rfl
    cases current with
    | none =>
      rw [lastKind_cons none _ (at', u) timeline hfst] at h
      exact ih _ h
    | some c =>
      obtain ⟨k, since⟩ := c
      by_cases hk : kind u = some k
      · rw [lastKind_cons _ (some (k, since)) (at', u) timeline (by simp [hk])] at h
        simp only [periodsFrom, hk, if_true]
        exact ih _ h
      · simp [periodsFrom, hk]

/-- A period is open exactly when it is the last one and the timeline ends in its kind. -/
theorem endAt_eq_none_iff :
    ∀ (timeline : List (Int × TicketStatus)) (current : Option (InterruptionKind × Int)) (i : Nat)
      (hi : i < (periodsFrom current timeline).length),
      (periodsFrom current timeline)[i].endAt = none ↔ i + 1 = (periodsFrom current timeline).length ∧
        lastKind current timeline = some (periodsFrom current timeline)[i].kind := by
  intro timeline
  induction timeline with
  | nil =>
    intro current i hi
    cases current with
    | none => simp [periodsFrom] at hi
    | some c =>
      have hzero : i = 0 := by simpa [periodsFrom] using hi
      subst hzero
      simp [periodsFrom, lastKind]
  | cons e timeline ih =>
    intro current i hi
    obtain ⟨at', u⟩ := e
    have hfst : ((kind u).map fun k => (k, at')).map Prod.fst = kind u := by
      cases kind u <;> rfl
    cases current with
    | none =>
      rw [lastKind_cons none _ (at', u) timeline hfst]
      exact ih _ i hi
    | some c =>
      obtain ⟨k, since⟩ := c
      by_cases hk : kind u = some k
      · rw [lastKind_cons _ (some (k, since)) (at', u) timeline (by simp [hk])]
        simp only [periodsFrom, hk, if_true] at hi ⊢
        exact ih _ i hi
      · rw [lastKind_cons _ _ (at', u) timeline hfst]
        simp only [periodsFrom, hk, if_false] at hi ⊢
        cases i with
        | zero =>
          -- a closed period with nothing after it leaves the timeline outside every interruption
          have hnil := periodsFrom_ne_nil timeline ((kind u).map fun k => (k, at'))
          simp only [List.getElem_cons_zero, reduceCtorEq, false_iff, not_and, List.length_cons]
          intro hlength hlast
          exact hnil (by simp [hlast]) (List.length_eq_zero_iff.mp (by omega))
        | succ i =>
          have := ih ((kind u).map fun k => (k, at')) i (by simpa using hi)
          simpa using this

/-- A period starts at a change of the timeline. -/
theorem startAt_of_mem_periodsFrom {i : TicketInterruption} (timeline : List (Int × TicketStatus))
    (current : Option (InterruptionKind × Int)) (h : i ∈ periodsFrom current timeline) :
    ∃ t, i.startAt = some t ∧ ((∃ c ∈ current, c.2 = t) ∨ ∃ e ∈ timeline, e.1 = t) := by
  induction timeline generalizing current with
  | nil =>
    cases current with
    | none => simp [periodsFrom] at h
    | some c =>
      obtain rfl := List.mem_singleton.mp h
      exact ⟨c.2, rfl, .inl ⟨c, rfl, rfl⟩⟩
  | cons e rest ih =>
    obtain ⟨at', s⟩ := e
    have hnext : i ∈ periodsFrom ((kind s).map fun k => (k, at')) rest →
        ∃ t, i.startAt = some t ∧ ((∃ c ∈ current, c.2 = t) ∨ ∃ e ∈ (at', s) :: rest, e.1 = t) := by
      intro h
      obtain ⟨t, ht, ⟨c, hc, rfl⟩ | ⟨e, he, rfl⟩⟩ := ih _ h
      · obtain ⟨k, -, rfl⟩ := Option.map_eq_some_iff.mp hc
        exact ⟨at', ht, .inr ⟨(at', s), List.mem_cons_self, rfl⟩⟩
      · exact ⟨e.1, ht, .inr ⟨e, List.mem_cons_of_mem _ he, rfl⟩⟩
    cases current with
    | none => exact hnext h
    | some c =>
      obtain ⟨k, since⟩ := c
      simp only [periodsFrom] at h
      split_ifs at h with hk
      · obtain ⟨t, ht, hc | ⟨e, he, rfl⟩⟩ := ih _ h
        · exact ⟨t, ht, .inl hc⟩
        · exact ⟨e.1, ht, .inr ⟨e, List.mem_cons_of_mem _ he, rfl⟩⟩
      · rcases List.mem_cons.mp h with rfl | h
        · exact ⟨since, rfl, .inl ⟨_, rfl, rfl⟩⟩
        · exact hnext h

/-- Accepted intervals start in time order, none before the end of the interval before. -/
theorem usableIntervals_starts : ∀ (intervals : List TicketInterruption) (lastEnd : WithTop Int),
    usableIntervals lastEnd intervals = true →
      (∀ i ∈ intervals, ∃ s : Int, i.startAt = some s ∧ lastEnd ≤ s) ∧
      intervals.Pairwise fun i j => ∃ s t : Int, i.startAt = some s ∧ j.startAt = some t ∧ s ≤ t := by
  intro intervals
  induction intervals with
  | nil => simp
  | cons i rest ih =>
    intro lastEnd h
    cases hs : i.startAt with
    | none => simp [usableIntervals, hs] at h
    | some start =>
      cases he : endTime i.endAt with
      | none => simp [usableIntervals, hs, he] at h
      | some stop =>
        simp only [usableIntervals, hs, he, Bool.and_eq_true, Bool.not_eq_true', decide_eq_false_iff_not, not_lt] at h
        obtain ⟨⟨⟨hstop, hlast⟩, -⟩, hrest⟩ := h
        obtain ⟨hall, hpair⟩ := ih stop hrest
        refine ⟨fun j hj => ?_, List.pairwise_cons.mpr ⟨fun j hj => ?_, hpair⟩⟩
        · rcases List.mem_cons.mp hj with rfl | hj
          · exact ⟨start, hs, hlast⟩
          · obtain ⟨t, ht, hle⟩ := hall j hj
            exact ⟨t, ht, hlast.trans (hstop.trans hle)⟩
        · obtain ⟨t, ht, hle⟩ := hall j hj
          exact ⟨start, t, hs, ht, WithTop.coe_le_coe.mp (hstop.trans hle)⟩

/-! ## The ledger mirrors the timeline -/

/-- The stored ledger is the complete record of a status timeline in time order. -/
structure Mirrors (history : Option TicketInterruptionHistory) (timeline : List (Int × TicketStatus)) : Prop where
  ordered : timeline.Pairwise (fun e f => e.1 ≤ f.1)
  eq : ∃ created, (∀ e ∈ timeline, created ≤ e.1) ∧ history = some
    { version := 1, capturedFrom := toISOString created, complete := true, intervals := periods timeline }

theorem mirrors_new (created : Int) {s : TicketStatus} (hs : kind s = none) :
    Mirrors (some (newInterruptionHistory created)) [(created, s)] := by
  refine ⟨List.pairwise_singleton _ _, created, by simp, ?_⟩
  simp [newInterruptionHistory, periods, periodsFrom, hs]

theorem Mirrors.usable {history : Option TicketInterruptionHistory} {timeline : List (Int × TicketStatus)}
    (h : Mirrors history timeline) : usableInterruptionHistory history = history := by
  obtain ⟨created, hc, rfl⟩ := h.eq
  have := usableIntervals_periodsFrom timeline none created h.ordered hc (by simp)
  simp [usableInterruptionHistory, toISOString, periods, this]

/-- Recording the next status change keeps the ledger the record of the longer timeline. -/
theorem Mirrors.record {history : Option TicketInterruptionHistory} {timeline : List (Int × TicketStatus)}
    (h : Mirrors history timeline) {t now : Int} {fromStatus : TicketStatus} (hlast : timeline.getLast? = some (t, fromStatus))
    (hnow : t ≤ now) (toStatus : TicketStatus) :
    Mirrors (recordInterruptionTransition history fromStatus toStatus now) (timeline ++ [(now, toStatus)]) := by
  have husable := h.usable
  obtain ⟨created, hc, heq⟩ := h.eq
  have hle : ∀ e ∈ timeline, e.1 ≤ now := by
    obtain ⟨l, rfl⟩ := List.getLast?_eq_some_iff.mp hlast
    intro e he
    have hp := List.pairwise_append.mp h.ordered
    rcases List.mem_append.mp he with he | he
    · exact (hp.2.2 e he (t, fromStatus) (List.mem_singleton_self _)).trans hnow
    · rw [List.mem_singleton.mp he]
      exact hnow
  have hkind : lastKind none timeline = kind fromStatus := by
    simp [lastKind, hlast]
  have hperiods := periodsFrom_concat now toStatus timeline none hle (by simp)
  rw [hkind] at hperiods
  refine ⟨List.pairwise_append.mpr ⟨h.ordered, List.pairwise_singleton _ _, fun e he f hf => ?_⟩, created, ?_, ?_⟩
  · rw [List.mem_singleton.mp hf]
    exact hle e he
  · intro e he
    rcases List.mem_append.mp he with he | he
    · exact hc e he
    · rw [List.mem_singleton.mp he]
      exact (hc _ (List.mem_of_getLast? hlast)).trans hnow
  · have hidle : kind toStatus = none → kind fromStatus = none →
        periods (timeline ++ [(now, toStatus)]) = periods timeline := by
      intro ht hf
      unfold periods
      rw [hperiods, if_neg (by simp [ht]), ht, closeOpen_periodsFrom now timeline none (hkind.trans hf)]
      simp
    unfold recordInterruptionTransition
    split_ifs with h1 h2
    · subst h1
      rw [heq]
      cases hk : kind fromStatus with
      | none => rw [hidle hk hk]
      | some k =>
        unfold periods
        rw [hperiods, if_pos (by simp [hk])]
    · rw [heq, hidle h2.2 h2.1]
    · have hne : ¬ (kind toStatus ≠ none ∧ kind toStatus = kind fromStatus) := by
        rintro ⟨h3, h4⟩
        revert h1 h3 h4
        cases fromStatus <;> cases toStatus <;> simp [kind]
      rw [husable, heq]
      unfold periods
      rw [hperiods, if_neg hne]
      cases kind toStatus <;> simp

end Interruption

end ComplianceHub
