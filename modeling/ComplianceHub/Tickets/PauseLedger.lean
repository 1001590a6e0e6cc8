import ComplianceHub.Tickets.Types

/-!
# The pause-credit ledger

`ticket-sla-pause.ts`: the credits are saved with the ticket, beside their total `accumulatedPauseSeconds`.

* `usablePauseLedger` : the check of a stored ledger against the clock and the total;
* `creditTicketPause` : the only writer of both.
-/

namespace ComplianceHub.Tickets

def clockStamp (slaStartedAt : Option Int) : Option StampText := slaStartedAt.map StampText.iso

def SlaPauseCredit.usable (credit : SlaPauseCredit) : Bool :=
  match credit.creditedSeconds, credit.startAt.parse, credit.endAt.parse with
  | some seconds, some start, some stop => 0 ≤ seconds ∧ start ≤ stop
  | _, _, _ => false

/-- `Number.isFinite(total) && Math.abs(total - accumulated) < 1`, on usable credits. -/
def creditedTotal (legacySeconds : Rat) (intervals : List SlaPauseCredit) : Rat :=
  legacySeconds + (intervals.map fun credit => credit.creditedSeconds.getD 0).sum

def usablePauseLedger (t : TicketSla) : Option SlaPauseLedger :=
  t.slaPauseLedger.filter fun ledger =>
    ledger.clockStartedAt = clockStamp t.slaStartedAt &&
      match ledger.legacySeconds with
      | some legacy =>
        0 ≤ legacy && ledger.intervals.all SlaPauseCredit.usable &&
          |creditedTotal legacy ledger.intervals - t.accumulatedPauseSeconds| < 1
      | none => false

def creditTicketPause (t : TicketSla) (start stop : Int) (seconds : Rat) : TicketSla :=
  let ledger := (usablePauseLedger t).getD
    { clockStartedAt := clockStamp t.slaStartedAt, legacySeconds := some (max 0 t.accumulatedPauseSeconds),
      intervals := [] }
  if ledger.intervals.any fun interval => interval.startAt = .iso start && interval.endAt = .iso stop then t
  else
    let creditedSeconds := max 0 (jsRound seconds)
    { t with
      slaPauseLedger := some { ledger with
        intervals := ledger.intervals ++ [⟨.iso start, .iso stop, some creditedSeconds⟩] }
      accumulatedPauseSeconds := t.accumulatedPauseSeconds + creditedSeconds }

/-! A credit writes the ledger and the total, and nothing else. -/

section
variable (t : TicketSla) (start stop : Int) (seconds : Rat)

@[simp] theorem creditTicketPause_slaDeadline :
    (creditTicketPause t start stop seconds).slaDeadline = t.slaDeadline := by
  unfold creditTicketPause; dsimp only; split <;> rfl

@[simp] theorem creditTicketPause_slaStartedAt :
    (creditTicketPause t start stop seconds).slaStartedAt = t.slaStartedAt := by
  unfold creditTicketPause; dsimp only; split <;> rfl

@[simp] theorem creditTicketPause_isSlaWaiting :
    (creditTicketPause t start stop seconds).isSlaWaiting = t.isSlaWaiting := by
  unfold creditTicketPause; dsimp only; split <;> rfl

@[simp] theorem creditTicketPause_overtimeSlaDate :
    (creditTicketPause t start stop seconds).overtimeSlaDate = t.overtimeSlaDate := by
  unfold creditTicketPause; dsimp only; split <;> rfl

theorem creditTicketPause_accumulated_le :
    t.accumulatedPauseSeconds ≤ (creditTicketPause t start stop seconds).accumulatedPauseSeconds := by
  unfold creditTicketPause
  dsimp only
  split
  · exact le_rfl
  · exact le_add_of_nonneg_right (le_max_left _ _)

end

end ComplianceHub.Tickets
