import ComplianceHub.Interruption.Ledger
import Mathlib.Data.List.Induction

/-!
# The ledger and the clock

Transitions recorded at any clock readings, one after the other.

* `recordAll` : the ledger after some calls; `Accepted` : a ledger that `usableInterruptionHistory` accepts;
* `Continues` : a ledger that has every interval of an earlier one, an open one perhaps closed by now;
* `Advances` : a call that opens an interval no earlier than the latest instant of the ledger (`accepted_record_iff`);
* `ledger_survives_iff` : when the ledger stays accepted and keeps its intervals.
-/

namespace ComplianceHub.Interruption

structure TransitionCall where
  fromStatus : TicketStatus
  toStatus : TicketStatus
  now : Int

def record (history : Option TicketInterruptionHistory) (call : TransitionCall) : Option TicketInterruptionHistory :=
  recordInterruptionTransition history call.fromStatus call.toStatus call.now

def recordAll (history : Option TicketInterruptionHistory) (calls : List TransitionCall) : Option TicketInterruptionHistory :=
  calls.foldl record history

theorem recordAll_concat (history : Option TicketInterruptionHistory) (calls : List TransitionCall) (call : TransitionCall) :
    recordAll history (calls ++ [call]) = record (recordAll history calls) call := by
  simp [recordAll]

def Accepted (history : Option TicketInterruptionHistory) : Prop := (usableInterruptionHistory history).isSome = true

instance (history : Option TicketInterruptionHistory) : Decidable (Accepted history) :=
  inferInstanceAs (Decidable (_ = true))

/-- The same interval, with its end if it had one. -/
structure SameInterval (i j : TicketInterruption) : Prop where
  kind : j.kind = i.kind
  startAt : j.startAt = i.startAt
  endAt : i.endAt ≠ none → j.endAt = i.endAt

/-- Every interval of the earlier ledger stands where it stood. -/
def Continues (earlier later : Option TicketInterruptionHistory) : Prop :=
  ∀ history ∈ earlier, ∃ history' ∈ later, ∀ (n : Nat) (i : TicketInterruption), history.intervals[n]? = some i →
    ∃ j, history'.intervals[n]? = some j ∧ SameInterval i j

/-- The latest instant of a ledger: the end of its last interval, the start of one that is open, else the capture. -/
def latestInstant (history : TicketInterruptionHistory) : DateText :=
  match history.intervals.getLast? with
  | none => history.capturedFrom
  | some interval => interval.endAt.getD interval.startAt

def Advances (history : Option TicketInterruptionHistory) (call : TransitionCall) : Prop :=
  call.fromStatus ≠ call.toStatus → kind call.toStatus ≠ none →
    ∀ instant ∈ history.bind latestInstant, instant ≤ call.now

instance (history : Option TicketInterruptionHistory) (call : TransitionCall) : Decidable (Advances history call) :=
  inferInstanceAs (Decidable (_ → _))

/-! ## Intervals -/

theorem sameInterval_refl (i : TicketInterruption) : SameInterval i i := ⟨rfl, rfl, fun _ => rfl⟩

theorem SameInterval.trans {i j k : TicketInterruption} (h : SameInterval i j) (h' : SameInterval j k) :
    SameInterval i k where
  kind := h'.kind.trans h.kind
  startAt := h'.startAt.trans h.startAt
  endAt hi := by
    have hj := h.endAt hi
    exact (h'.endAt (hj ▸ hi)).trans hj

theorem closeOpen_same (now : Int) : ∀ (l : List TicketInterruption) {n : Nat} {i : TicketInterruption}, l[n]? = some i →
    ∃ j, (closeOpen l now)[n]? = some j ∧ SameInterval i j
  | [], n, i, h => by simp at h
  | [first], n, i, h => by
    obtain ⟨rfl, rfl⟩ : n = 0 ∧ first = i := by
      cases n <;> simp_all
    show ∃ j, (if first.endAt = none then _ else _ : List TicketInterruption)[0]? = some j ∧ _
    split_ifs with hopen
    · exact ⟨_, rfl, rfl, rfl, fun hne => absurd hopen hne⟩
    · exact ⟨first, rfl, sameInterval_refl first⟩
  | first :: second :: rest, n, i, h => by
    rw [closeOpen_cons_of_ne_nil first (List.cons_ne_nil second rest)]
    cases n with
    | zero => exact ⟨first, rfl, Option.some.inj h ▸ sameInterval_refl first⟩
    | succ n =>
      rw [List.getElem?_cons_succ] at h ⊢
      exact closeOpen_same now (second :: rest) h

/-- The check of the first interval: it is open and the last, or closed and the check goes on from its end. -/
theorem usableIntervals_cons {i : TicketInterruption} {rest : List TicketInterruption} {lastEnd : WithTop Int} :
    usableIntervals lastEnd (i :: rest) = true ↔ ∃ start : Int, i.startAt = some start ∧ lastEnd ≤ start ∧
      (i.endAt = none ∧ rest = [] ∨
        ∃ stop : Int, i.endAt = some (some stop) ∧ start ≤ stop ∧ usableIntervals stop rest = true) := by
  obtain ⟨k, startAt, endAt⟩ := i
  rcases startAt with _ | start
  · simp [usableIntervals]
  · rcases endAt with _ | _ | stop
    · simp [usableIntervals, endTime]
      intro _
      cases rest <;> simp [usableIntervals]
    · simp [usableIntervals, endTime]
    · simp [usableIntervals, endTime]
      tauto

/-- Intervals that are accepted stay so when the last one is closed. -/
theorem usableIntervals_closeOpen (now : Int) : ∀ (l : List TicketInterruption) (lastEnd : WithTop Int),
    usableIntervals lastEnd l = true → usableIntervals lastEnd (closeOpen l now) = true
  | [], _, h => h
  | i :: rest, lastEnd, h => by
    obtain ⟨start, hstart, hle, ⟨hopen, rfl⟩ | ⟨stop, hstop, horder, hrest⟩⟩ := usableIntervals_cons.mp h
    · have hclosed : closeOpen [i] now = [{ i with endAt := some (some (max now start)) }] := by
        simp [closeOpen, hopen, hstart]
      rw [hclosed]
      exact usableIntervals_cons.mpr ⟨start, hstart, hle, .inr ⟨max now start, rfl, le_max_right _ _, rfl⟩⟩
    · rw [closeOpen_cons_closed (by simp [hstop])]
      exact usableIntervals_cons.mpr
        ⟨start, hstart, hle, .inr ⟨stop, hstop, horder, usableIntervals_closeOpen now rest stop hrest⟩⟩

theorem latestInstant_cons {captured : DateText} {stop : DateText} {i : TicketInterruption} (rest : List TicketInterruption)
    (h : i.endAt = some stop) : latestInstant ⟨1, captured, true, i :: rest⟩ = latestInstant ⟨1, stop, true, rest⟩ := by
  unfold latestInstant
  cases rest with
  | nil => simp [h]
  | cons j rest =>
    have hlast : (i :: j :: rest).getLast? = (j :: rest).getLast? := List.getLast?_cons_cons
    rw [hlast, List.getLast?_eq_some_getLast (List.cons_ne_nil j rest)]

/-- An interval that is opened behind them is accepted exactly if it starts no earlier than the latest instant. -/
theorem usableIntervals_open (k : InterruptionKind) (now : Int) : ∀ (l : List TicketInterruption) (lastEnd : Int),
    usableIntervals lastEnd l = true →
    (usableIntervals lastEnd (closeOpen l now ++ [⟨k, toISOString now, none⟩]) = true ↔
      ∀ instant ∈ latestInstant ⟨1, some lastEnd, true, l⟩, instant ≤ now)
  | [], lastEnd, _ => by simp [closeOpen, usableIntervals_cons, toISOString, latestInstant]
  | i :: rest, lastEnd, h => by
    obtain ⟨start, hstart, hle, ⟨hopen, rfl⟩ | ⟨stop, hstop, horder, hrest⟩⟩ := usableIntervals_cons.mp h
    · have hfirst : lastEnd ≤ start := WithTop.coe_le_coe.mp hle
      simp [closeOpen, hopen, usableIntervals_cons, hstart, hfirst, toISOString, latestInstant]
    · rw [closeOpen_cons_closed (by simp [hstop]), List.cons_append, latestInstant_cons rest hstop,
        ← usableIntervals_open k now rest stop hrest, usableIntervals_cons]
      have hfirst : lastEnd ≤ start := WithTop.coe_le_coe.mp hle
      simp [hstart, hstop, hfirst, horder]

/-! ## One call -/

section
variable {history : Option TicketInterruptionHistory} {call : TransitionCall}

theorem accepted_iff {ledger : TicketInterruptionHistory} : Accepted (some ledger) ↔ ledger.version = 1 ∧
    ∃ captured : Int, ledger.capturedFrom = some captured ∧ usableIntervals captured ledger.intervals = true := by
  unfold Accepted usableInterruptionHistory
  cases hcaptured : ledger.capturedFrom <;> simp [hcaptured]

/-- The ledger that a call leaves of an accepted one. -/
theorem record_of_accepted {ledger : TicketInterruptionHistory} (call : TransitionCall)
    (h : Accepted (some ledger)) :
    record (some ledger) call = some ledger ∧ (call.fromStatus = call.toStatus ∨ kind call.toStatus = none) ∨
      record (some ledger) call = some { ledger with intervals := closeOpen ledger.intervals call.now } ∧
        kind call.toStatus = none ∨
      ∃ k, kind call.toStatus = some k ∧ call.fromStatus ≠ call.toStatus ∧ record (some ledger) call =
        some { ledger with intervals := closeOpen ledger.intervals call.now ++ [⟨k, toISOString call.now, none⟩] } := by
  have husable : usableInterruptionHistory (some ledger) = some ledger := by
    obtain ⟨value, hvalue⟩ := Option.isSome_iff_exists.mp h
    rw [hvalue, ← (Option.filter_eq_some_iff.mp hvalue).1]
  unfold record recordInterruptionTransition
  rw [husable]
  split_ifs with hsame hnone
  · exact .inl ⟨rfl, .inl hsame⟩
  · exact .inl ⟨rfl, .inr hnone.2⟩
  · cases hkind : kind call.toStatus with
    | none => exact .inr (.inl ⟨rfl, rfl⟩)
    | some k => exact .inr (.inr ⟨k, rfl, hsame, rfl⟩)

/-- A call keeps an accepted ledger accepted exactly if it advances. -/
theorem accepted_record_iff (h : Accepted history) : Accepted (record history call) ↔ Advances history call := by
  cases history with
  | none => exact absurd h (by decide)
  | some ledger =>
    obtain ⟨hversion, captured, hcaptured, husable⟩ := accepted_iff.mp h
    rcases record_of_accepted call h with ⟨hrecord, hidle⟩ | ⟨hrecord, hkind⟩ | ⟨k, hkind, hne, hrecord⟩
    · rw [hrecord]
      exact iff_of_true h fun hne hkind => absurd hidle (by simp [hne, hkind])
    · rw [hrecord]
      refine iff_of_true (accepted_iff.mpr ⟨hversion, captured, hcaptured, ?_⟩) fun _ hne => absurd hkind hne
      exact usableIntervals_closeOpen call.now ledger.intervals captured husable
    · have hlatest : latestInstant ledger = latestInstant ⟨1, some captured, true, ledger.intervals⟩ := by
        unfold latestInstant
        rw [hcaptured]
      rw [hrecord, accepted_iff]
      unfold Advances
      simp only [hversion, hcaptured, Option.some.injEq, exists_eq_left', true_and, ne_eq, hne, not_false_eq_true,
        hkind, reduceCtorEq, forall_const, Option.bind_some, hlatest]
      exact usableIntervals_open k call.now ledger.intervals captured husable

theorem continues_refl (history : Option TicketInterruptionHistory) : Continues history history := fun ledger hledger =>
  ⟨ledger, hledger, fun _ i hi => ⟨i, hi, sameInterval_refl i⟩⟩

theorem Continues.trans {a b c : Option TicketInterruptionHistory} (h : Continues a b) (h' : Continues b c) :
    Continues a c := by
  intro ledger hledger
  obtain ⟨ledger', hledger', hfirst⟩ := h ledger hledger
  obtain ⟨ledger'', hledger'', hsecond⟩ := h' ledger' hledger'
  refine ⟨ledger'', hledger'', fun n i hi => ?_⟩
  obtain ⟨j, hj, hij⟩ := hfirst n i hi
  obtain ⟨k, hk, hjk⟩ := hsecond n j hj
  exact ⟨k, hk, hij.trans hjk⟩

/-- No interval of an accepted ledger is dropped by the next call. -/
theorem continues_record (h : Accepted history) : Continues history (record history call) := by
  intro ledger hledger
  obtain rfl : history = some ledger := hledger
  have hclosed := fun n i => closeOpen_same call.now ledger.intervals (n := n) (i := i)
  rcases record_of_accepted call h with ⟨hrecord, -⟩ | ⟨hrecord, -⟩ | ⟨k, -, -, hrecord⟩
  · exact ⟨ledger, hrecord, fun _ i hi => ⟨i, hi, sameInterval_refl i⟩⟩
  · exact ⟨_, hrecord, hclosed⟩
  · refine ⟨_, hrecord, fun n i hi => ?_⟩
    obtain ⟨j, hj, hij⟩ := hclosed n i hi
    exact ⟨j, (List.getElem?_append_left (List.getElem?_eq_some_iff.mp hj).1).trans hj, hij⟩

end

/-! ## Any calls -/

section
variable {history : Option TicketInterruptionHistory} {calls : List TransitionCall}

/-- From accepted ledgers the calls drop nothing. -/
theorem continues_recordAll (done : List TransitionCall) : ∀ more : List TransitionCall,
    (∀ first rest, done ++ more = first ++ rest → Accepted (recordAll history first)) →
    Continues (recordAll history done) (recordAll history (done ++ more)) := by
  intro more
  induction more using List.reverseRecOn with
  | nil =>
    intro _
    rw [List.append_nil]
    exact continues_refl _
  | append_singleton more call ih =>
    intro haccepted
    rw [← List.append_assoc, recordAll_concat]
    refine (ih fun first rest heq => haccepted first (rest ++ [call]) ?_).trans
      (continues_record (haccepted (done ++ more) [call] (List.append_assoc _ _ _).symm))
    rw [← List.append_assoc, heq, List.append_assoc]

/-- **The ledger survives a clock that does not go back behind it**: after any calls it is accepted and has the intervals
that it had after any of them, if and only if each call that opens an interval does so no earlier than the latest instant
of the ledger. -/
theorem ledger_survives_iff (history : Option TicketInterruptionHistory) (calls : List TransitionCall)
    (h : Accepted history) :
    ((∀ done rest, calls = done ++ rest → Accepted (recordAll history done)) ∧
      ∀ done more rest, calls = done ++ more ++ rest →
        Continues (recordAll history done) (recordAll history (done ++ more))) ↔
    ∀ done call rest, calls = done ++ call :: rest → Advances (recordAll history done) call := by
  constructor
  · rintro ⟨haccepted, -⟩ done call rest heq
    rw [← accepted_record_iff (haccepted done (call :: rest) heq), ← recordAll_concat]
    exact haccepted (done ++ [call]) rest (by rw [heq, List.append_assoc, List.singleton_append])
  · intro hadvances
    have haccepted : ∀ done rest, calls = done ++ rest → Accepted (recordAll history done) := by
      intro done
      induction done using List.reverseRecOn with
      | nil => exact fun _ _ => h
      | append_singleton done call ih =>
        intro rest heq
        rw [List.append_assoc, List.singleton_append] at heq
        rw [recordAll_concat, accepted_record_iff (ih (call :: rest) heq)]
        exact hadvances done call rest heq
    refine ⟨haccepted, fun done more rest heq => continues_recordAll done more fun first others hfirst => ?_⟩
    exact haccepted first (others ++ rest) (by rw [heq, hfirst, List.append_assoc])

end

/-- A pause from 10 to 20. -/
def pausedOnce : List TransitionCall := [⟨.in_progress, .pause, 10⟩, ⟨.pause, .in_progress, 20⟩]

theorem paused_twice_survives :
    Accepted (recordAll (some (newInterruptionHistory 0)) (pausedOnce ++ [⟨.in_progress, .pause, 30⟩])) := by
  have hadvances : ∀ done call rest, pausedOnce ++ [⟨.in_progress, .pause, 30⟩] = done ++ call :: rest →
      Advances (recordAll (some (newInterruptionHistory 0)) done) call := by
    intro done call rest heq
    match done, heq with
    | [], heq =>
      cases heq
      decide
    | [_], heq =>
      cases heq
      decide
    | [_, _], heq =>
      cases heq
      decide
    | _ :: _ :: _ :: _, heq => simp [pausedOnce] at heq
  exact ((ledger_survives_iff (some (newInterruptionHistory 0)) (pausedOnce ++ [⟨.in_progress, .pause, 30⟩])
    (by decide)).mpr hadvances).1 _ [] (List.append_nil _).symm

/-- A second pause, opened at 15 by a clock that was set back, is not accepted behind the first. -/
theorem pause_before_resume : ¬ ∀ (history : Option TicketInterruptionHistory) (calls : List TransitionCall),
    Accepted history → (∀ done rest, calls = done ++ rest → Accepted (recordAll history done)) ∧
      ∀ done more rest, calls = done ++ more ++ rest →
        Continues (recordAll history done) (recordAll history (done ++ more)) := by
  intro h
  have haccepted := (h (some (newInterruptionHistory 0)) (pausedOnce ++ [⟨.in_progress, .pause, 15⟩]) (by decide)).1 _ []
    (List.append_nil _).symm
  exact absurd haccepted (by decide)

end ComplianceHub.Interruption
