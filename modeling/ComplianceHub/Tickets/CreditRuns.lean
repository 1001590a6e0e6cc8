import ComplianceHub.Lib.Run
import ComplianceHub.Tickets.PauseLedger
import Mathlib.Data.List.Nodup

/-!
# The pause ledger over runs

Credits and restarts of the SLA clock, in any order, from any stored ledger.

* `ledgerFor` : the ledger a credit writes to; it is usable (`usable_ledgerFor`), before and after (`usable_credited`);
* `pauseSystem` : the credits and the restarts, with the credits since the last restart;
* `pause_ledger_in_step` : the ledger and the total after every credit that has an effect.
-/

namespace ComplianceHub.Tickets
open Lib (System Run Transition)

/-! ## One credit -/

/-- The ledger a credit writes to: the usable one, or a new one that takes the total over. -/
def ledgerFor (t : TicketSla) : SlaPauseLedger :=
  (usablePauseLedger t).getD
    { clockStartedAt := clockStamp t.slaStartedAt, legacySeconds := some (max 0 t.accumulatedPauseSeconds), intervals := [] }

/-- The ledger has an interval with this start and end. -/
def SlaPauseLedger.holds (ledger : SlaPauseLedger) (start stop : Int) : Bool :=
  ledger.intervals.any fun interval => interval.startAt = .iso start && interval.endAt = .iso stop

def creditOf (start stop : Int) (seconds : Rat) : SlaPauseCredit :=
  ⟨.iso start, .iso stop, some (max 0 (jsRound seconds) : Int)⟩

/-- The total of a ledger, with what it has taken over. -/
def SlaPauseLedger.total (ledger : SlaPauseLedger) : Rat := creditedTotal (ledger.legacySeconds.getD 0) ledger.intervals

def SlaPauseLedger.append (ledger : SlaPauseLedger) (credit : SlaPauseCredit) : SlaPauseLedger :=
  { ledger with intervals := ledger.intervals ++ [credit] }

variable {t : TicketSla} {ledger : SlaPauseLedger} {start stop : Int} {seconds : Rat}

theorem creditTicketPause_eq (t : TicketSla) (start stop : Int) (seconds : Rat) :
    creditTicketPause t start stop seconds =
      if (ledgerFor t).holds start stop then t
      else { t with
        slaPauseLedger := some ((ledgerFor t).append (creditOf start stop seconds))
        accumulatedPauseSeconds := t.accumulatedPauseSeconds + max 0 (jsRound seconds) } := by
  rfl

theorem total_append : (ledger.append (creditOf start stop seconds)).total =
    ledger.total + (max 0 (jsRound seconds) : Int) := by
  simp only [SlaPauseLedger.total, SlaPauseLedger.append, creditedTotal, creditOf, List.map_append, List.sum_append,
    List.map_cons, List.map_nil, List.sum_cons, List.sum_nil, Option.getD_some, add_zero]
  rw [add_assoc]

theorem holds_append_self : (ledger.append (creditOf start stop seconds)).holds start stop = true := by
  simp [SlaPauseLedger.holds, SlaPauseLedger.append, creditOf]

/-- What the check of a ledger demands. -/
theorem usablePauseLedger_eq_some : usablePauseLedger t = some ledger ↔
    t.slaPauseLedger = some ledger ∧ ledger.clockStartedAt = clockStamp t.slaStartedAt ∧
      (∃ legacy, ledger.legacySeconds = some legacy ∧ 0 ≤ legacy) ∧ (∀ c ∈ ledger.intervals, c.usable = true) ∧
      |ledger.total - t.accumulatedPauseSeconds| < 1 := by
  unfold usablePauseLedger SlaPauseLedger.total
  rw [Option.filter_eq_some_iff]
  cases ledger.legacySeconds with
  | none => simp
  | some legacy => simp [and_assoc]

theorem creditOf_usable (h : start ≤ stop) (seconds : Rat) : (creditOf start stop seconds).usable = true := by
  simp [creditOf, SlaPauseCredit.usable, StampText.parse, h]

/-- The ledger a credit writes to passes the check. -/
theorem usable_ledgerFor (h : 0 ≤ t.accumulatedPauseSeconds) :
    usablePauseLedger { t with slaPauseLedger := some (ledgerFor t) } = some (ledgerFor t) := by
  rw [usablePauseLedger_eq_some]
  refine ⟨rfl, ?_⟩
  unfold ledgerFor
  cases husable : usablePauseLedger t with
  | some ledger => exact (usablePauseLedger_eq_some.mp husable).2
  | none =>
    have hacc : (0 : Rat) ≤ t.accumulatedPauseSeconds := Int.cast_nonneg h
    refine ⟨rfl, ⟨_, rfl, le_max_left _ _⟩, fun c hc => (List.not_mem_nil hc).elim, ?_⟩
    simp [SlaPauseLedger.total, creditedTotal, max_eq_right hacc]

/-- A new ledger takes the total over exactly. -/
theorem total_ledgerFor_of_none (h : 0 ≤ t.accumulatedPauseSeconds) (hnone : usablePauseLedger t = none) :
    (ledgerFor t).total = t.accumulatedPauseSeconds := by
  have hacc : (0 : Rat) ≤ t.accumulatedPauseSeconds := Int.cast_nonneg h
  simp [ledgerFor, hnone, SlaPauseLedger.total, creditedTotal, max_eq_right hacc]

/-- A credit is in the ledger already, or it is appended to a ledger that stays usable. -/
theorem creditTicketPause_cases (h : 0 ≤ t.accumulatedPauseSeconds) (hle : start ≤ stop) (seconds : Rat) :
    ((ledgerFor t).holds start stop = true ∧ creditTicketPause t start stop seconds = t) ∨
      ((ledgerFor t).holds start stop = false ∧
        usablePauseLedger (creditTicketPause t start stop seconds) =
          some ((ledgerFor t).append (creditOf start stop seconds)) ∧
        (creditTicketPause t start stop seconds).accumulatedPauseSeconds =
          t.accumulatedPauseSeconds + max 0 (jsRound seconds)) := by
  rw [creditTicketPause_eq]
  cases hholds : (ledgerFor t).holds start stop with
  | true => exact .inl ⟨rfl, rfl⟩
  | false =>
    obtain ⟨-, hclock, ⟨legacy, hlegacy, hnonneg⟩, hall, htotal⟩ := usablePauseLedger_eq_some.mp (usable_ledgerFor h)
    refine .inr ⟨rfl, usablePauseLedger_eq_some.mpr ⟨rfl, hclock, ⟨legacy, hlegacy, hnonneg⟩, fun c hc => ?_, ?_⟩, rfl⟩
    · rcases List.mem_append.mp hc with hc | hc
      · exact hall c hc
      · rw [List.mem_singleton.mp hc]
        exact creditOf_usable hle seconds
    · rw [if_neg Bool.false_ne_true, total_append, Int.cast_add, add_sub_add_right_eq_sub]
      exact htotal

/-- What a usable ledger holds is not credited again. -/
theorem creditTicketPause_of_holds (h : usablePauseLedger t = some ledger) (hholds : ledger.holds start stop = true)
    (seconds : Rat) : creditTicketPause t start stop seconds = t := by
  have hledger : ledgerFor t = ledger := by rw [ledgerFor, h, Option.getD_some]
  rw [creditTicketPause_eq, hledger, if_pos hholds]

/-! ## Credits and restarts -/

/-- A restart of the SLA clock: a new origin, and nothing credited. The ledger stays. -/
def restartClock (t : TicketSla) (slaStartedAt : Option Int) : TicketSla :=
  { t with slaStartedAt, accumulatedPauseSeconds := 0 }

inductive ClockStep where
  | credit (start stop : Int) (seconds : Rat)
  | restart (slaStartedAt : Option Int)

/-- A ticket, with the credits of its clock: those made since the last restart, and what its ledger held before. -/
structure Credited where
  ticket : TicketSla
  since : List SlaPauseCredit

def intervalsOf (t : TicketSla) : List SlaPauseCredit := ((usablePauseLedger t).map SlaPauseLedger.intervals).getD []

/-- Any number of credits and restarts, from a ticket as it is stored. -/
def clockSystem (stored : TicketSla) : System Credited ClockStep where
  init c := c = ⟨stored, intervalsOf stored⟩
  step c label c' :=
    match label with
    | .credit start stop seconds => start ≤ stop ∧ c'.ticket = creditTicketPause c.ticket start stop seconds ∧
        c'.since = if c'.ticket = c.ticket then c.since else c.since ++ [creditOf start stop seconds]
    | .restart slaStartedAt => c'.ticket = restartClock c.ticket slaStartedAt ∧ c'.since = []

/-- A restart that leaves no credit behind: the ledger is of another origin, credits a second or more, or is empty. -/
def Leaves (e : Transition Credited ClockStep) : Prop :=
  ∀ origin, e.label = .restart origin → intervalsOf (restartClock e.before.ticket origin) = []

theorem leaves_of_origin_or_total {e : Transition Credited ClockStep}
    (h : ∀ origin ledger, e.label = .restart origin → e.before.ticket.slaPauseLedger = some ledger →
      ledger.clockStartedAt = clockStamp origin → 1 ≤ |ledger.total|) : Leaves e := by
  intro origin horigin
  have hnone : usablePauseLedger (restartClock e.before.ticket origin) = none := by
    rw [Option.eq_none_iff_forall_not_mem]
    rintro ledger hledger
    obtain ⟨hstored, hclock, -, -, htotal⟩ := usablePauseLedger_eq_some.mp hledger
    have hzero : |ledger.total| < 1 := by simpa [restartClock] using htotal
    exact absurd (h origin ledger horigin hstored hclock) (not_le.mpr hzero)
  rw [intervalsOf, hnone]
  rfl

/-- The start and the end of a credit. -/
def SlaPauseCredit.span (credit : SlaPauseCredit) : StampText × StampText := (credit.startAt, credit.endAt)

/-- The ledger adds up to whole seconds. -/
def WholeSeconds (t : TicketSla) : Prop := ∀ ledger, t.slaPauseLedger = some ledger → ∃ n : Int, ledger.total = n

/-- No two intervals of the ledger have the same start and end. -/
def DistinctSpans (t : TicketSla) : Prop :=
  ∀ ledger, t.slaPauseLedger = some ledger → (ledger.intervals.map SlaPauseCredit.span).Nodup

/-! ## What one step keeps -/

theorem intervals_ledgerFor (t : TicketSla) : (ledgerFor t).intervals = intervalsOf t := by
  unfold ledgerFor intervalsOf
  cases usablePauseLedger t <;> rfl

theorem accumulated_nonneg_credit (h : 0 ≤ t.accumulatedPauseSeconds) (start stop : Int) (seconds : Rat) :
    0 ≤ (creditTicketPause t start stop seconds).accumulatedPauseSeconds :=
  h.trans (creditTicketPause_accumulated_le t start stop seconds)

theorem wholeSeconds_credit (h : 0 ≤ t.accumulatedPauseSeconds) (hwhole : WholeSeconds t) (start stop : Int)
    (seconds : Rat) : WholeSeconds (creditTicketPause t start stop seconds) := by
  have hfor : ∃ n : Int, (ledgerFor t).total = n := by
    cases husable : usablePauseLedger t with
    | none => exact ⟨_, total_ledgerFor_of_none h husable⟩
    | some ledger =>
      rw [ledgerFor, husable]
      exact hwhole ledger (usablePauseLedger_eq_some.mp husable).1
  rw [creditTicketPause_eq]
  split_ifs with hholds
  · exact hwhole
  · rintro ledger hledger
    obtain rfl := Option.some_injective _ hledger
    obtain ⟨n, hn⟩ := hfor
    exact ⟨n + max 0 (jsRound seconds), by rw [total_append, hn, Int.cast_add]⟩

theorem distinctSpans_credit (hdistinct : DistinctSpans t) (start stop : Int) (seconds : Rat) :
    DistinctSpans (creditTicketPause t start stop seconds) := by
  have hfor : ((ledgerFor t).intervals.map SlaPauseCredit.span).Nodup := by
    rw [intervals_ledgerFor]
    unfold intervalsOf
    cases husable : usablePauseLedger t with
    | none => exact List.nodup_nil
    | some ledger => exact hdistinct ledger (usablePauseLedger_eq_some.mp husable).1
  rw [creditTicketPause_eq]
  split_ifs with hholds
  · exact hdistinct
  · rintro ledger hledger
    obtain rfl := Option.some_injective _ hledger
    rw [SlaPauseLedger.append, List.map_append, List.nodup_append]
    refine ⟨hfor, List.nodup_singleton _, ?_⟩
    rintro span hspan new hnew rfl
    apply hholds
    obtain ⟨interval, hinterval, rfl⟩ := List.mem_map.mp hspan
    have hsame := List.mem_singleton.mp hnew
    refine List.any_eq_true.mpr ⟨interval, hinterval, ?_⟩
    rw [show interval.startAt = .iso start from congrArg Prod.fst hsame,
      show interval.endAt = .iso stop from congrArg Prod.snd hsame]
    simp

theorem intervalsOf_credit (h : 0 ≤ t.accumulatedPauseSeconds) (hle : start ≤ stop) (seconds : Rat) :
    intervalsOf (creditTicketPause t start stop seconds) =
      if creditTicketPause t start stop seconds = t then intervalsOf t else intervalsOf t ++ [creditOf start stop seconds] := by
  rcases creditTicketPause_cases h hle seconds with ⟨-, hsame⟩ | ⟨hholds, husable, -⟩
  · rw [hsame, if_pos rfl]
  · have hne : creditTicketPause t start stop seconds ≠ t := by
      intro hsame
      rw [hsame] at husable
      have hledger : ledgerFor t = (ledgerFor t).append (creditOf start stop seconds) := by
        conv_lhs => rw [ledgerFor, husable, Option.getD_some]
      rw [hledger, holds_append_self] at hholds
      cases hholds
    rw [if_neg hne, intervalsOf, husable, ← intervals_ledgerFor]
    rfl

/-! ## Runs -/

variable {stored : TicketSla} {history : List (Transition Credited ClockStep)} {c c' : Credited}

theorem accumulated_nonneg_of_run (h : 0 ≤ stored.accumulatedPauseSeconds) (hrun : Run (clockSystem stored) history c) :
    0 ≤ c.ticket.accumulatedPauseSeconds := by
  refine Run.always (P := fun _ => True) (I := fun c => 0 ≤ c.ticket.accumulatedPauseSeconds) ?_ ?_ hrun fun _ _ => trivial
  · rintro c rfl
    exact h
  · intro c label c' hc hstep _
    cases label with
    | credit start stop seconds =>
      rw [hstep.2.1]
      exact accumulated_nonneg_credit hc start stop seconds
    | restart origin =>
      rw [hstep.1]
      exact le_rfl

/-- What credits keep, and what does not depend on the clock, holds of the ticket after every run. -/
theorem kept_of_run {I : TicketSla → Prop} (h : 0 ≤ stored.accumulatedPauseSeconds) (hstored : I stored)
    (hcredit : ∀ t start stop seconds, 0 ≤ t.accumulatedPauseSeconds → I t → I (creditTicketPause t start stop seconds))
    (hrestart : ∀ t origin, I t → I (restartClock t origin)) (hrun : Run (clockSystem stored) history c) : I c.ticket := by
  refine Run.invariant (P := fun _ => True) (I := fun _ c => I c.ticket) ?_ ?_ hrun fun _ _ => trivial
  · rintro c rfl
    exact hstored
  · intro history c label c' hpast hc hstep _
    cases label with
    | credit start stop seconds =>
      rw [hstep.2.1]
      exact hcredit _ _ _ _ (accumulated_nonneg_of_run h hpast) hc
    | restart origin =>
      rw [hstep.1]
      exact hrestart _ _ hc

/-- Without a credit left behind, the intervals in use are those of the clock. -/
theorem intervalsOf_of_run (h : 0 ≤ stored.accumulatedPauseSeconds) (hrun : Run (clockSystem stored) history c)
    (hleaves : ∀ e ∈ history, Leaves e) : intervalsOf c.ticket = c.since := by
  refine Run.invariant (P := Leaves) (I := fun _ c => intervalsOf c.ticket = c.since) ?_ ?_ hrun hleaves
  · rintro c rfl
    rfl
  · intro history c label c' hpast hc hstep hclean
    cases label with
    | credit start stop seconds =>
      obtain ⟨hle, hticket, hsince⟩ := hstep
      rw [hsince, hticket, intervalsOf_credit (accumulated_nonneg_of_run h hpast) hle, hc]
    | restart origin =>
      obtain ⟨hticket, hsince⟩ := hstep
      rw [hsince, hticket]
      exact hclean origin rfl

/-- After every credit with an effect the ledger is usable and holds the credit; it adds up to the total if the stored
one is in whole seconds, has distinct intervals if the stored one has, and only those of the clock unless a restart
left some behind. -/
theorem pause_ledger_in_step (stored : TicketSla) (h : 0 ≤ stored.accumulatedPauseSeconds)
    {history : List (Transition Credited ClockStep)} {c c' : Credited} (hrun : Run (clockSystem stored) history c)
    {start stop : Int} {seconds : Rat} (hstep : (clockSystem stored).step c (.credit start stop seconds) c')
    (heffective : c'.ticket ≠ c.ticket) :
    ∃ ledger, c'.ticket.slaPauseLedger = some ledger ∧ usablePauseLedger c'.ticket = some ledger ∧
      (WholeSeconds stored → ledger.total = c'.ticket.accumulatedPauseSeconds) ∧
      (DistinctSpans stored → (ledger.intervals.map SlaPauseCredit.span).Nodup) ∧
      ((∀ e ∈ history, Leaves e) → ledger.intervals = c'.since) ∧
      (∀ a b, ledger.holds a b = true → ∀ again, creditTicketPause c'.ticket a b again = c'.ticket) ∧
      ledger.holds start stop = true := by
  have hacc := accumulated_nonneg_of_run h hrun
  have hrun' := hrun.step hstep
  have hle := hstep.1
  have hticket := hstep.2.1
  rcases creditTicketPause_cases hacc hle seconds with ⟨-, hsame⟩ | ⟨-, husable, htotal⟩
  · exact absurd (hticket.trans hsame) heffective
  · rw [← hticket] at husable htotal
    obtain ⟨hstored, hclock, hlegacy, hall, hnear⟩ := usablePauseLedger_eq_some.mp husable
    refine ⟨_, hstored, husable, fun hwhole => ?_, fun hdistinct => ?_, fun hleaves => ?_, fun a b hholds again => ?_,
      holds_append_self⟩
    · -- both are whole seconds, less than one second apart
      have hkept := kept_of_run h hwhole (fun t a b s ht hI => wholeSeconds_credit ht hI a b s) (fun _ _ hI => hI) hrun'
      obtain ⟨n, hn⟩ := hkept _ hstored
      rw [hn, ← Int.cast_sub, ← Int.cast_abs, ← Int.cast_one, Int.cast_lt, Int.abs_lt_one_iff, sub_eq_zero] at hnear
      rw [hn, hnear]
    · exact kept_of_run h hdistinct (fun t a b s _ hI => distinctSpans_credit hI a b s) (fun _ _ hI => hI) hrun' _ hstored
    · have hnew : ∀ e ∈ history ++ [⟨c, .credit start stop seconds, c'⟩], Leaves e := by
        intro e he
        rcases List.mem_append.mp he with he | he
        · exact hleaves e he
        · obtain rfl := List.mem_singleton.mp he
          exact fun origin horigin => by cases horigin
      rw [← intervalsOf_of_run h hrun' hnew, intervalsOf, husable]
      rfl
    · exact creditTicketPause_of_holds husable hholds again

/-- A credit, a restart at another time, and a credit under the new clock. -/
theorem pause_ledger_in_step_after_restart :
    let first := creditTicketPause { slaStartedAt := some 0 } 1000 6000 5
    let second := creditTicketPause (restartClock first (some 9000)) 10000 17000 7
    ∃ ledger, usablePauseLedger second = some ledger ∧ ledger.total = second.accumulatedPauseSeconds ∧
      (ledger.intervals.map SlaPauseCredit.span).Nodup ∧ ledger.intervals = [creditOf 10000 17000 7] := by
  let stored : TicketSla := { slaStartedAt := some 0 }
  let a : Credited := ⟨stored, intervalsOf stored⟩
  let b : Credited := ⟨creditTicketPause stored 1000 6000 5, [creditOf 1000 6000 5]⟩
  let c : Credited := ⟨restartClock b.ticket (some 9000), []⟩
  let d : Credited := ⟨creditTicketPause c.ticket 10000 17000 7, [creditOf 10000 17000 7]⟩
  have hfirst : (clockSystem stored).step a (.credit 1000 6000 5) b := ⟨by decide, rfl, by decide +kernel⟩
  have hrestart : (clockSystem stored).step b (.restart (some 9000)) c := ⟨rfl, rfl⟩
  have hsecond : (clockSystem stored).step c (.credit 10000 17000 7) d := ⟨by decide, rfl, by decide +kernel⟩
  obtain ⟨ledger, -, husable, hwhole, hdistinct, hleaves, -⟩ := pause_ledger_in_step stored (by decide)
    (((Run.init rfl).step hfirst).step hrestart) hsecond (by decide +kernel)
  refine ⟨ledger, husable, hwhole fun _ h => ?_, hdistinct fun _ h => ?_, hleaves fun e he => ?_⟩
  · cases h
  · cases h
  · rcases List.mem_cons.mp he with rfl | he
    · exact fun origin horigin => by cases horigin
    · obtain rfl := List.mem_singleton.mp he
      apply leaves_of_origin_or_total
      intro origin ledger horigin hstored hclock
      obtain rfl : some 9000 = origin := ClockStep.restart.inj horigin
      obtain rfl := Option.some_injective _ hstored
      cases hclock

/-- A ledger within a second of the total, or with one interval twice, passes the check, and so does one that credits
nothing after a restart at its own origin. -/
theorem usable_ledger_out_of_step :
    (∃ t : TicketSla, t.accumulatedPauseSeconds = 0 ∧ ∃ ledger,
      usablePauseLedger (creditTicketPause t 1000 2000 1) = some ledger ∧
        (creditTicketPause t 1000 2000 1).accumulatedPauseSeconds = 1 ∧ ledger.total = 3 / 2) ∧
    (∃ t : TicketSla, t.accumulatedPauseSeconds = 0 ∧ ∃ ledger,
      usablePauseLedger (creditTicketPause t 1000 2000 1) = some ledger ∧
        ¬ (ledger.intervals.map SlaPauseCredit.span).Nodup) ∧
    (∃ t : TicketSla, t.slaPauseLedger = none ∧ ∃ ledger,
      usablePauseLedger (creditTicketPause (restartClock (creditTicketPause t 0 10 0) t.slaStartedAt) 1000 2000 1) =
          some ledger ∧
        ledger.intervals = [creditOf 0 10 0, creditOf 1000 2000 1]) := by
  refine ⟨⟨{ slaStartedAt := some 0, slaPauseLedger := some ⟨some (.iso 0), some (1 / 2), []⟩ }, rfl,
      ⟨some (.iso 0), some (1 / 2), [creditOf 1000 2000 1]⟩, by decide +kernel⟩,
    ⟨{ slaStartedAt := some 0, slaPauseLedger := some ⟨some (.iso 0), some 0, [creditOf 0 10 0, creditOf 0 10 0]⟩ }, rfl,
      ⟨some (.iso 0), some 0, [creditOf 0 10 0, creditOf 0 10 0, creditOf 1000 2000 1]⟩, by decide +kernel⟩,
    ⟨{ slaStartedAt := some 0 }, rfl,
      ⟨some (.iso 0), some 0, [creditOf 0 10 0, creditOf 1000 2000 1]⟩, by decide +kernel⟩⟩

end ComplianceHub.Tickets
