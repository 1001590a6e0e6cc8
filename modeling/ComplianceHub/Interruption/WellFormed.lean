import ComplianceHub.Interruption.Disjoint

/-!
# Reconstructed intervals are well formed

* `replayedOf`, `ledgerOf` : the two parts of a projection, its replay and its ledger;
* `RecoversClearly` : the projection recovers no start from before the end of an emitted interval;
* `Orderly` : no record of the creation comes after a record of an unknown status;
* `reconstructed_intervals` : a projection is sorted, its estimates are within their limits, the ledger is in it as
  recorded, and it is disjoint if and only if it recovers clear starts, as it does where its records are orderly;
* `late_created_record_overlaps` : a late record of the creation makes two intervals overlap.
-/

namespace ComplianceHub.Interruption

/-! ## The parts of a projection -/

section Parts
variable (localeCompare : String → String → Ordering) (ticket : ReportTicket)
  (evidence : List HistoricalInterruptionEvidence) (now : Int)

/-- The end of what is estimated: the capture of the ledger, or now. -/
def horizonOf : Int :=
  min (((usableInterruptionHistory ticket.interruptionHistory).bind TicketInterruptionHistory.capturedFrom).getD now) now

def contextOf : ReplayContext :=
  replayContext ticket.createdAt (horizonOf ticket now) (usableInterruptionHistory ticket.interruptionHistory).isSome
    (sortEvidence localeCompare ticket.createdAt now evidence)

def transitionsOf : List TimedEvidence :=
  coalesce [] ((sortEvidence localeCompare ticket.createdAt now evidence).filter fun item => item.type ≠ .justification)

/-- The replay up to the horizon, with what the ticket's own status opens. -/
def replayedOf : Replay :=
  openFromStatus (contextOf localeCompare ticket evidence now) ticket now
    (replay (contextOf localeCompare ticket evidence now) { lastStateAt := ticket.createdAt }
      (transitionsOf localeCompare ticket evidence now))

/-- No start is recovered from before the end of an interval that is emitted already. -/
def RecoversClearly : Prop :=
  RecoversClear (contextOf localeCompare ticket evidence now) { lastStateAt := ticket.createdAt }
      (transitionsOf localeCompare ticket evidence now) ∧
    Clear (replayedOf localeCompare ticket evidence now)

/-- The intervals of the ledger, as a projection shows them. -/
def ledgerOf : List ReportInterruptionInterval :=
  (((usableInterruptionHistory ticket.interruptionHistory).map TicketInterruptionHistory.intervals).getD []).map
    fun interval => { interval with estimated := false }

/-- The intervals that are estimated. -/
def estimatesOf : List ReportInterruptionInterval :=
  (closeLast (contextOf localeCompare ticket evidence now) ticket (replayedOf localeCompare ticket evidence now)).intervals

end Parts

variable {localeCompare : String → String → Ordering} {ticket : ReportTicket}
  {evidence : List HistoricalInterruptionEvidence} {start now : Int} {ctx : ReplayContext} {r : Replay}

theorem usableInterruptionHistory_idem (value : Option TicketInterruptionHistory) :
    usableInterruptionHistory (usableInterruptionHistory value) = usableInterruptionHistory value := by
  unfold usableInterruptionHistory
  rw [Option.filter_filter]
  simp only [Bool.and_self]

/-- A projection is the ledger, or the estimates before the horizon and the ledger by their starts. -/
theorem reconstruct_intervals_eq (localeCompare : String → String → Ordering) (ticket : ReportTicket)
    (evidence : List HistoricalInterruptionEvidence) (start now : Int) :
    (reconstructReportInterruptions localeCompare ticket evidence start now).intervals =
      if hasRecordedMonthlyHistory ticket.interruptionHistory start = true then ledgerOf ticket
      else (((estimatesOf localeCompare ticket evidence now).filter fun interval =>
        interval.startAt.any (· < horizonOf ticket now)) ++ ledgerOf ticket).mergeSort startLE := by
  have hrecorded : hasRecordedMonthlyHistory (usableInterruptionHistory ticket.interruptionHistory) start =
      hasRecordedMonthlyHistory ticket.interruptionHistory start := by
    unfold hasRecordedMonthlyHistory
    rw [usableInterruptionHistory_idem]
  unfold reconstructReportInterruptions
  dsimp only
  rw [hrecorded]
  split_ifs <;> rfl

/-! ## Records in time order -/

theorem sortEvidence_pairwise [Std.TransCmp localeCompare] (created now : Int)
    (evidence : List HistoricalInterruptionEvidence) :
    (sortEvidence localeCompare created now evidence).Pairwise fun a b => a.time ≤ b.time := by
  refine (Lib.pairwise_mergeSort_isLE _).imp fun {a b} hle => ?_
  by_contra hlt
  exact Lib.not_isLE_of_lt (evidenceCompare_of_time_lt (not_le.mp hlt)) hle

theorem mem_sortEvidence {created now : Int} {item : TimedEvidence}
    (h : item ∈ sortEvidence localeCompare created now evidence) : created ≤ item.time ∧ item.time ≤ now := by
  unfold sortEvidence at h
  dsimp only at h
  rw [List.mem_mergeSort, List.mem_filter, decide_eq_true_eq] at h
  exact h.2

theorem coalesce_sublist : ∀ (items transitions : List TimedEvidence), (coalesce transitions items).Sublist (transitions ++ items)
  | [], transitions => by
    rw [List.append_nil]
    exact .refl _
  | item :: rest, transitions => by
    unfold coalesce
    split_ifs
    · exact (coalesce_sublist rest transitions).trans (List.Sublist.append_left (List.sublist_cons_self _ _) _)
    · have hrest := coalesce_sublist rest (transitions ++ [item])
      rwa [List.append_assoc] at hrest

theorem transitionsOf_sublist (localeCompare : String → String → Ordering) (ticket : ReportTicket)
    (evidence : List HistoricalInterruptionEvidence) (now : Int) :
    (transitionsOf localeCompare ticket evidence now).Sublist (sortEvidence localeCompare ticket.createdAt now evidence) :=
  (coalesce_sublist _ []).trans List.filter_sublist

theorem created_le_justified (k : InterruptionKind) :
    ∀ t ∈ (contextOf localeCompare ticket evidence now).justified k, ticket.createdAt ≤ t := by
  intro t ht
  obtain ⟨item, hitem, rfl⟩ := List.mem_map.mp ht
  exact (mem_sortEvidence (List.mem_filter.mp hitem).1).1

/-! ## The last episode -/

/-- The ticket's own status opens an episode of its kind, with a recovered start. -/
theorem openFromStatus_cases (ctx : ReplayContext) (ticket : ReportTicket) (now : Int) (r : Replay) :
    openFromStatus ctx ticket now r = r ∨ ∃ k anchor saved, ctx.direct = false ∧ kind ticket.status = some k ∧
      recoverStart ctx r.lastStateAt k now saved = some anchor ∧
      (openFromStatus ctx ticket now r).intervals = r.intervals ∧
      (openFromStatus ctx ticket now r).openEpisode = some ⟨k, anchor⟩ := by
  unfold openFromStatus
  split
  · rename_i k hnone hkind
    by_cases hsupported : (!ctx.direct && (!ticket.isSlaWaiting || !(ctx.justified k).isEmpty)) = true
    · rw [if_pos hsupported]
      cases hanchor : recoverStart ctx r.lastStateAt k now (if ticket.isSlaWaiting then none else ticket.slaPausedAt) with
      | none => exact .inl rfl
      | some anchor =>
        dsimp only
        by_cases hknown : (r.intervals.any fun interval => interval.startAt = some anchor) = true
        · rw [if_pos hknown]
          exact .inl rfl
        · rw [if_neg hknown]
          rw [Bool.and_eq_true, Bool.not_eq_true'] at hsupported
          exact .inr ⟨k, anchor, _, hsupported.1, hkind, hanchor, rfl, rfl⟩
    · rw [if_neg hsupported]
      exact .inl rfl
  · exact .inl rfl

/-- The last episode is emitted apart from the others if and only if it is clear. -/
theorem disjoint_closeLast (hestimates : Estimates ctx.created ctx.horizon r.intervals)
    (hopened : ∀ entry, r.openEpisode = some entry → ctx.created ≤ entry.start)
    (hclear : ∀ entry, r.openEpisode = some entry → ticket.status = entry.kind.status ∨ EndsBy entry.start r.intervals) :
    Estimates ctx.created ctx.horizon (closeLast ctx ticket r).intervals ∧
      (Disjoint (closeLast ctx ticket r).intervals ↔ Disjoint r.intervals ∧ Clear r) := by
  have hclear_iff : ∀ entry, r.openEpisode = some entry → (Clear r ↔ EndsBy entry.start r.intervals) := by
    intro entry hentry
    refine ⟨fun h => h entry hentry, fun h other hother => ?_⟩
    rw [hentry] at hother
    cases hother
    exact h
  unfold closeLast
  split
  · rename_i hnone
    refine ⟨hestimates, (and_iff_left fun entry hentry => ?_).symm⟩
    rw [hnone] at hentry
    cases hentry
  · rename_i entry hentry
    have hcreated := hopened entry hentry
    rw [hclear_iff entry hentry]
    by_cases hown : ctx.direct = true ∨ ticket.status = entry.kind.status
    · rw [if_pos hown]
      refine ⟨estimates_emit hestimates hcreated (min_le_right _ _), disjoint_emit ?_ hcreated⟩
      rwa [min_self]
    · rw [if_neg hown]
      have hends : EndsBy entry.start r.intervals := (hclear entry hentry).resolve_left fun h => hown (.inr h)
      split
      · rename_i completion hcompletion
        refine ⟨estimates_emit hestimates hcreated (min_le_right _ _), ?_⟩
        exact (disjoint_emit_of_endsBy hestimates hends completion).trans (and_iff_left hends).symm
      · exact ⟨hestimates, (and_iff_left hends).symm⟩

theorem bounded_start (ctx : ReplayContext) : Bounded ctx ctx.created { lastStateAt := ctx.created } := by
  refine ⟨fun i hi => absurd hi List.not_mem_nil, fun entry hentry => ?_, fun entry hentry => ?_⟩ <;> cases hentry

/-- The estimates are within their limits, and disjoint if and only if the replay recovers clear starts. -/
theorem disjoint_estimatesOf (localeCompare : String → String → Ordering) [Std.TransCmp localeCompare] (ticket : ReportTicket)
    (evidence : List HistoricalInterruptionEvidence) (now : Int) :
    Estimates ticket.createdAt (horizonOf ticket now) (estimatesOf localeCompare ticket evidence now) ∧
      (Disjoint (estimatesOf localeCompare ticket evidence now) ↔ RecoversClearly localeCompare ticket evidence now) := by
  have hsub := transitionsOf_sublist localeCompare ticket evidence now
  have hjustified : ∀ k, ∀ t ∈ (contextOf localeCompare ticket evidence now).justified k, ticket.createdAt ≤ t :=
    created_le_justified
  have hcreated : ∀ item ∈ transitionsOf localeCompare ticket evidence now, ticket.createdAt ≤ item.time :=
    fun item hitem => (mem_sortEvidence (hsub.subset hitem)).1
  have hstart : Bounded (contextOf localeCompare ticket evidence now) ticket.createdAt { lastStateAt := ticket.createdAt } :=
    bounded_start _
  obtain ⟨⟨last, hbounded⟩, hreplay⟩ := disjoint_replay hjustified _ hstart hcreated hcreated
    ((sortEvidence_pairwise _ _ _).sublist hsub)
  have hestimates := hbounded.estimates.mono (min_le_right _ _)
  have hnone : Disjoint ({ lastStateAt := ticket.createdAt } : Replay).intervals := List.Pairwise.nil
  rw [and_iff_right hnone] at hreplay
  unfold estimatesOf RecoversClearly
  rcases openFromStatus_cases (contextOf localeCompare ticket evidence now) ticket now
    (replay (contextOf localeCompare ticket evidence now) { lastStateAt := ticket.createdAt }
      (transitionsOf localeCompare ticket evidence now)) with heq | ⟨k, anchor, saved, -, hkind, hanchor, hintervals, hopen⟩
  · unfold replayedOf
    rw [heq, ← hreplay]
    exact disjoint_closeLast hestimates hbounded.opened fun entry hentry => .inr (hbounded.clear entry hentry)
  · have hopened : ∀ entry, (replayedOf localeCompare ticket evidence now).openEpisode = some entry → entry = ⟨k, anchor⟩ := by
      intro entry hentry
      exact Option.some.inj (hentry.symm.trans hopen)
    have hsame : (replayedOf localeCompare ticket evidence now).intervals = (replay (contextOf localeCompare ticket evidence now)
        { lastStateAt := ticket.createdAt } (transitionsOf localeCompare ticket evidence now)).intervals := hintervals
    rw [← hreplay, ← hsame]
    refine disjoint_closeLast ?_ (fun entry hentry => ?_) fun entry hentry => ?_
    · rw [hsame]
      exact hestimates
    · rw [hopened entry hentry]
      exact (recoverStart_eq_some hjustified hanchor).1
    · rw [hopened entry hentry]
      exact .inl (kind_eq_some.mp hkind)

/-! ## Orderly records -/

/-- A record that says how a ticket was created. -/
def IsCreation (item : TimedEvidence) : Prop := item.type = .created ∧ item.toField.status? ≠ none

/-- A record of a status that is missing or not known. -/
def IsUnknown (item : TimedEvidence) : Prop := item.type ≠ .created ∧ item.toField.status? = none

/-- No record of the creation comes after a record of an unknown status. -/
def Orderly (items : List TimedEvidence) : Prop := items.Pairwise fun a b => IsUnknown a → ¬ IsCreation b

/-- The instant of the last change of status moves to the creation, to the record, or not at all. -/
theorem replayItem_state (ctx : ReplayContext) (r : Replay) (item : TimedEvidence) :
    ((replayItem ctx r item).state = r.state ∧ (replayItem ctx r item).lastStateAt = r.lastStateAt ∧
      (replayItem ctx r item).intervals = r.intervals) ∨
    (IsCreation item ∧ r.state = none ∧ (replayItem ctx r item).state ≠ none ∧
      (replayItem ctx r item).intervals = r.intervals) ∨
    ((replayItem ctx r item).lastStateAt = item.time ∧ (IsUnknown item ∨ (replayItem ctx r item).state ≠ none)) := by
  unfold replayItem
  by_cases hcreated : item.type = .created
  · rw [if_pos hcreated]
    cases hknown : item.toField.status? with
    | none => exact .inl ⟨rfl, rfl, rfl⟩
    | some s =>
      dsimp only
      by_cases hnone : r.state = none
      · rw [if_pos hnone]
        refine .inr (.inl ⟨⟨hcreated, ?_⟩, hnone, Option.some_ne_none s, rfl⟩)
        rw [hknown]
        exact Option.some_ne_none s
      · rw [if_neg hnone]
        exact .inl ⟨rfl, rfl, rfl⟩
  · rw [if_neg hcreated]
    cases hentered : item.toField.status? with
    | none => exact .inr (.inr ⟨rfl, .inl ⟨hcreated, hentered⟩⟩)
    | some entered =>
      dsimp only
      by_cases hextension : item.type = .extension ∨ item.fromField = item.toField
      · rw [if_pos hextension]
        exact .inl ⟨rfl, rfl, rfl⟩
      · rw [if_neg hextension]
        by_cases hsame : some entered = r.state ∧ (item.fromField.isFalsy ∨ item.fromField.status? = r.state)
        · rw [if_pos hsame]
          exact .inl ⟨rfl, rfl, rfl⟩
        · rw [if_neg hsame]
          exact .inr (.inr ⟨rfl, .inr (Option.some_ne_none entered)⟩)

/-- Intervals end before the last change of status, which a record of the creation moves back only before the first. -/
theorem recoversClear_of_orderly (hjustified : ∀ k, ∀ t ∈ ctx.justified k, ctx.created ≤ t) :
    ∀ (items : List TimedEvidence) {time : Int} {r : Replay}, Bounded ctx time r → EndsBy r.lastStateAt r.intervals →
      (r.state = none → r.intervals = [] ∨ ∀ item ∈ items, ¬ IsCreation item) → (∀ item ∈ items, time ≤ item.time) →
      (∀ item ∈ items, ctx.created ≤ item.time) → items.Pairwise (fun a b => a.time ≤ b.time) → Orderly items →
      RecoversClear ctx r items ∧ (EndsBy (replay ctx r items).lastStateAt (replay ctx r items).intervals ∨
        (replay ctx r items).openEpisode = none ∧ ∃ item ∈ items, ctx.horizon < item.time)
  | [], _, _, _, hends, _, _, _, _, _ => ⟨trivial, .inl hends⟩
  | item :: rest, time, r, h, hends, hnone, htimes, hcreated, hsorted, horderly => by
    obtain ⟨hfirst, hrest⟩ := List.pairwise_cons.mp hsorted
    obtain ⟨hunknown, horderly⟩ := List.pairwise_cons.mp horderly
    obtain ⟨hbounded, -⟩ := h.replayed hjustified (htimes item List.mem_cons_self) (hcreated item List.mem_cons_self)
    unfold RecoversClear replay
    split_ifs with hpast
    · refine ⟨fun hle => absurd hle (not_le.mpr hpast), .inr ⟨?_, item, List.mem_cons_self, hpast⟩⟩
      unfold replayPast
      split
      · assumption
      · split_ifs <;> rfl
    · have hclear : Clear (adopted ctx r item) := by
        intro entry hentry
        rw [(recovers_adopted ctx r item).intervals]
        rcases (recovers_adopted ctx r item).opened entry hentry with hold | ⟨k, hrecovered⟩
        · exact h.clear entry hold
        · exact hends.mono (recoverStart_eq_some hjustified hrecovered).2.1
      have hitem : EndsBy item.time (replayItem ctx r item).intervals := hbounded.estimates.endsBy.mono (min_le_left _ _)
      have hends' : EndsBy (replayItem ctx r item).lastStateAt (replayItem ctx r item).intervals := by
        rcases replayItem_state ctx r item with ⟨-, hsame, hintervals⟩ | ⟨hcreation, hstate, -, hintervals⟩ | ⟨hsame, -⟩
        · rw [hsame, hintervals]
          exact hends
        · rw [hintervals]
          rcases hnone hstate with hempty | hno
          · rw [hempty]
            exact fun i hi => absurd hi List.not_mem_nil
          · exact absurd hcreation (hno item List.mem_cons_self)
        · rw [hsame]
          exact hitem
      have hnone' : (replayItem ctx r item).state = none →
          (replayItem ctx r item).intervals = [] ∨ ∀ other ∈ rest, ¬ IsCreation other := by
        intro hstate
        rcases replayItem_state ctx r item with ⟨hsame, -, hintervals⟩ | ⟨-, -, hsome, -⟩ | ⟨-, hunknown' | hsome⟩
        · rw [hintervals]
          rw [hsame] at hstate
          exact (hnone hstate).imp_right fun hno other hother => hno other (List.mem_cons_of_mem _ hother)
        · exact absurd hstate hsome
        · exact .inr fun other hother => hunknown other hother hunknown'
        · exact absurd hstate hsome
      obtain ⟨hlater, hlast⟩ := recoversClear_of_orderly hjustified rest hbounded hends' hnone' hfirst
        (fun other hother => hcreated other (List.mem_cons_of_mem _ hother)) hrest horderly
      refine ⟨fun _ => ⟨fun _ => hclear, hlater⟩, hlast.imp_right ?_⟩
      rintro ⟨hopen, other, hother, hpast⟩
      exact ⟨hopen, other, List.mem_cons_of_mem _ hother, hpast⟩

/-- Orderly records recover clear starts. -/
theorem recoversClearly_of_orderly [Std.TransCmp localeCompare]
    (h : Orderly (transitionsOf localeCompare ticket evidence now)) : RecoversClearly localeCompare ticket evidence now := by
  have hsub := transitionsOf_sublist localeCompare ticket evidence now
  have hjustified : ∀ k, ∀ t ∈ (contextOf localeCompare ticket evidence now).justified k, ticket.createdAt ≤ t :=
    created_le_justified
  have hrange : ∀ item ∈ transitionsOf localeCompare ticket evidence now, ticket.createdAt ≤ item.time ∧ item.time ≤ now :=
    fun item hitem => mem_sortEvidence (hsub.subset hitem)
  have hsorted : (transitionsOf localeCompare ticket evidence now).Pairwise fun a b => a.time ≤ b.time :=
    (sortEvidence_pairwise ticket.createdAt now evidence).sublist hsub
  have hstart : Bounded (contextOf localeCompare ticket evidence now) ticket.createdAt { lastStateAt := ticket.createdAt } :=
    bounded_start _
  obtain ⟨⟨last, hbounded⟩, -⟩ := disjoint_replay hjustified _ hstart (fun item hitem => (hrange item hitem).1)
    (fun item hitem => (hrange item hitem).1) hsorted
  obtain ⟨hclear, hends⟩ := recoversClear_of_orderly hjustified _ hstart (fun i hi => absurd hi List.not_mem_nil)
    (fun _ => .inl rfl) (fun item hitem => (hrange item hitem).1) (fun item hitem => (hrange item hitem).1) hsorted h
  refine ⟨hclear, ?_⟩
  unfold replayedOf
  rcases openFromStatus_cases (contextOf localeCompare ticket evidence now) ticket now
    (replay (contextOf localeCompare ticket evidence now) { lastStateAt := ticket.createdAt }
      (transitionsOf localeCompare ticket evidence now)) with heq | ⟨k, anchor, saved, hdirect, -, hanchor, hintervals, hopen⟩
  · rw [heq]
    exact hbounded.clear
  · -- without a ledger the horizon is now, which no record is past
    have hhorizon : (contextOf localeCompare ticket evidence now).horizon = now := by
      show horizonOf ticket now = now
      unfold horizonOf
      rw [Option.isNone_iff_eq_none.mp (Option.isSome_eq_false_iff.mp hdirect)]
      exact min_self now
    have hends : EndsBy _ _ := hends.resolve_right fun ⟨_, item, hitem, hpast⟩ => by
      rw [hhorizon] at hpast
      exact absurd (hrange item hitem).2 (not_le.mpr hpast)
    intro entry hentry
    rw [hopen] at hentry
    cases hentry
    rw [hintervals]
    exact hends.mono (recoverStart_eq_some hjustified hanchor).2.1

/-! ## The ledger -/

/-- Accepted intervals follow each other. -/
theorem usableIntervals_before : ∀ (intervals : List TicketInterruption) (lastEnd : WithTop Int),
    usableIntervals lastEnd intervals = true → (intervals.map fun i => ({ i with estimated := false } :
      ReportInterruptionInterval)).Pairwise Before
  | [], _, _ => List.Pairwise.nil
  | i :: rest, lastEnd, h => by
    cases hs : i.startAt with
    | none => simp [usableIntervals, hs] at h
    | some start =>
      cases he : endTime i.endAt with
      | none => simp [usableIntervals, hs, he] at h
      | some stop =>
        simp only [usableIntervals, hs, he, Bool.and_eq_true] at h
        refine List.pairwise_cons.mpr ⟨fun j hj => ?_, usableIntervals_before rest stop h.2⟩
        obtain ⟨k, hk, rfl⟩ := List.mem_map.mp hj
        obtain ⟨t, ht, hle⟩ := (usableIntervals_starts rest stop h.2).1 k hk
        exact ⟨stop, he, t, ht, hle⟩

/-- A ledger that is usable was captured at an instant, and its intervals come after. -/
theorem usable_eq_some {value : Option TicketInterruptionHistory} {history : TicketInterruptionHistory}
    (h : usableInterruptionHistory value = some history) :
    ∃ captured, history.capturedFrom = some captured ∧ usableIntervals captured history.intervals = true := by
  obtain ⟨-, husable⟩ := Option.filter_eq_some_iff.mp h
  rw [Bool.and_eq_true] at husable
  cases hcaptured : history.capturedFrom with
  | none =>
    rw [hcaptured] at husable
    exact absurd husable.2 Bool.false_ne_true
  | some captured =>
    rw [hcaptured] at husable
    exact ⟨captured, rfl, husable.2⟩

theorem ledgerOf_before (ticket : ReportTicket) : (ledgerOf ticket).Pairwise Before := by
  unfold ledgerOf
  cases h : usableInterruptionHistory ticket.interruptionHistory with
  | none => exact List.Pairwise.nil
  | some history =>
    obtain ⟨captured, -, husable⟩ := usable_eq_some h
    exact usableIntervals_before history.intervals captured husable

/-- The ledger starts at the horizon or later, in time order. -/
theorem ledgerOf_starts (ticket : ReportTicket) (now : Int) :
    (∀ i ∈ ledgerOf ticket, ∃ s, i.startAt = some s ∧ horizonOf ticket now ≤ s) ∧
      (ledgerOf ticket).Pairwise fun i j => ∃ s t : Int, i.startAt = some s ∧ j.startAt = some t ∧ s ≤ t := by
  unfold ledgerOf horizonOf
  cases h : usableInterruptionHistory ticket.interruptionHistory with
  | none => exact ⟨fun i hi => absurd hi List.not_mem_nil, List.Pairwise.nil⟩
  | some history =>
    obtain ⟨captured, hcaptured, husable⟩ := usable_eq_some h
    obtain ⟨hall, hpair⟩ := usableIntervals_starts history.intervals captured husable
    refine ⟨fun i hi => ?_, List.pairwise_map.mpr hpair⟩
    obtain ⟨j, hj, rfl⟩ := List.mem_map.mp hi
    obtain ⟨s, hs, hle⟩ := hall j hj
    refine ⟨s, hs, (min_le_left _ _).trans ?_⟩
    rw [Option.bind_some, hcaptured]
    exact WithTop.coe_le_coe.mp hle

theorem ledgerOf_estimated (ticket : ReportTicket) : ∀ i ∈ ledgerOf ticket, i.estimated = false := by
  intro i hi
  obtain ⟨j, -, rfl⟩ := List.mem_map.mp hi
  rfl

/-! ## The projection -/

/-- The order of two starts that parse. -/
def startsBefore (a b : ReportInterruptionInterval) : Bool := decide (a.startAt.getD 0 ≤ b.startAt.getD 0)

theorem mergeSort_startLE {intervals : List ReportInterruptionInterval}
    (h : ∀ i ∈ intervals, ∃ s, i.startAt = some s) : intervals.mergeSort startLE = intervals.mergeSort startsBefore := by
  have hmap := List.map_mergeSort (r := startLE) (s := startsBefore) (f := id) (l := intervals) fun a ha b hb => ?_
  · rwa [List.map_id, List.map_id] at hmap
  · obtain ⟨s, hs⟩ := h a ha
    obtain ⟨t, ht⟩ := h b hb
    rw [startLE, startsBefore, id, id, hs, ht]
    rfl

theorem startsBefore_trans (a b c : ReportInterruptionInterval) (hab : startsBefore a b = true)
    (hbc : startsBefore b c = true) : startsBefore a c = true := by
  rw [startsBefore, decide_eq_true_eq] at hab hbc ⊢
  exact hab.trans hbc

theorem startsBefore_total (a b : ReportInterruptionInterval) : (startsBefore a b || startsBefore b a) = true := by
  rw [Bool.or_eq_true, startsBefore, startsBefore, decide_eq_true_eq, decide_eq_true_eq]
  exact Int.le_total _ _

/-- Two starts in order. -/
def InOrder (a b : ReportInterruptionInterval) : Prop :=
  ∃ s t : Int, a.startAt = some s ∧ b.startAt = some t ∧ s ≤ t

theorem inOrder_of_startsBefore {a b : ReportInterruptionInterval} (ha : ∃ s, a.startAt = some s)
    (hb : ∃ s, b.startAt = some s) (h : startsBefore a b = true) : InOrder a b := by
  obtain ⟨s, hs⟩ := ha
  obtain ⟨t, ht⟩ := hb
  rw [startsBefore, hs, ht, decide_eq_true_eq] at h
  exact ⟨s, t, hs, ht, h⟩

/-- Estimates before a ledger, by their starts. -/
theorem mergeSort_wellFormed {created limit : Int} {estimates ledger : List ReportInterruptionInterval}
    (hestimates : Estimates created limit estimates) (hledger : ∀ i ∈ ledger, ∃ s, i.startAt = some s ∧ limit ≤ s)
    (hrecorded : ∀ i ∈ ledger, i.estimated = false) (hsorted : ledger.Pairwise InOrder) (hbefore : ledger.Pairwise Before) :
    ((estimates ++ ledger).mergeSort startLE).Pairwise InOrder ∧
      (∀ i ∈ (estimates ++ ledger).mergeSort startLE, i.estimated = true → ∃ s e, IsEstimate created limit i s e) ∧
      ((estimates ++ ledger).mergeSort startLE).filter (fun i => !i.estimated) = ledger ∧
      (Disjoint ((estimates ++ ledger).mergeSort startLE) ↔ Disjoint estimates) := by
  have hstarts : ∀ i ∈ estimates ++ ledger, ∃ s, i.startAt = some s := by
    intro i hi
    rcases List.mem_append.mp hi with hi | hi
    · obtain ⟨s, _, h⟩ := hestimates i hi
      exact ⟨s, h.startAt⟩
    · obtain ⟨s, hs, -⟩ := hledger i hi
      exact ⟨s, hs⟩
  have hperm := List.mergeSort_perm (estimates ++ ledger) startsBefore
  rw [mergeSort_startLE hstarts]
  refine ⟨?_, fun i hi hestimated => ?_, ?_, ?_⟩
  · refine List.Pairwise.imp_of_mem (fun {a b} ha hb h => ?_)
      (List.pairwise_mergeSort startsBefore_trans startsBefore_total (estimates ++ ledger))
    exact inOrder_of_startsBefore (hstarts a (hperm.mem_iff.mp ha)) (hstarts b (hperm.mem_iff.mp hb)) h
  · rcases List.mem_append.mp (hperm.mem_iff.mp hi) with hi | hi
    · exact hestimates i hi
    · rw [hrecorded i hi] at hestimated
      cases hestimated
  · have hsub : ledger.Sublist ((estimates ++ ledger).mergeSort startsBefore) := by
      refine List.sublist_mergeSort startsBefore_trans startsBefore_total (hsorted.imp ?_) (List.sublist_append_right _ _)
      rintro a b ⟨s, t, hs, ht, hle⟩
      rw [startsBefore, hs, ht, decide_eq_true_eq]
      exact hle
    have hkept : ledger.filter (fun i => !i.estimated) = ledger := by
      refine List.filter_eq_self.mpr fun i hi => ?_
      rw [hrecorded i hi]
      rfl
    have hdropped : estimates.filter (fun i => !i.estimated) = [] := by
      refine List.filter_eq_nil_iff.mpr fun i hi => ?_
      obtain ⟨_, _, h⟩ := hestimates i hi
      rw [h.estimated]
      exact Bool.false_ne_true
    have hfiltered := hsub.filter fun i => !i.estimated
    rw [hkept] at hfiltered
    refine (hfiltered.eq_of_length ?_).symm
    rw [(hperm.filter fun i => !i.estimated).length_eq, List.filter_append, hkept, hdropped, List.nil_append]
  · unfold Disjoint
    rw [hperm.pairwise_iff (fun h => h.symm), List.pairwise_append]
    refine ⟨fun h => h.1, fun h => ⟨h, hbefore.imp .inl, fun i hi j hj => .inl ?_⟩⟩
    obtain ⟨s, e, hi⟩ := hestimates i hi
    obtain ⟨t, ht, hle⟩ := hledger j hj
    refine ⟨(e : WithTop Int), ?_, t, ht, WithTop.coe_le_coe.mpr (hi.limit.trans hle)⟩
    rw [hi.endAt]
    rfl

/-- Every estimate is before the horizon. -/
theorem filter_estimatesOf [Std.TransCmp localeCompare] (ticket : ReportTicket)
    (evidence : List HistoricalInterruptionEvidence) (now : Int) :
    (estimatesOf localeCompare ticket evidence now).filter (fun interval =>
      interval.startAt.any (· < horizonOf ticket now)) = estimatesOf localeCompare ticket evidence now := by
  refine List.filter_eq_self.mpr fun i hi => ?_
  obtain ⟨s, e, h⟩ := (disjoint_estimatesOf localeCompare ticket evidence now).1 i hi
  rw [h.startAt, Option.any_some, decide_eq_true_eq]
  exact h.lt.trans_le h.limit

instance : DecidablePred IsCreation := fun _ => inferInstanceAs (Decidable (_ ∧ _))

instance : DecidablePred IsUnknown := fun _ => inferInstanceAs (Decidable (_ ∧ _))

instance (items : List TimedEvidence) : Decidable (Orderly items) := inferInstanceAs (Decidable (List.Pairwise _ _))

/-- A pause at 10, the return at 20, and a second pause at 30. -/
def pausedTwice : List StatusChange := [⟨"2", 10, .pause⟩, ⟨"3", 20, .in_progress⟩, ⟨"4", 30, .pause⟩]

/-- The status of the third record is not known, and the record of the creation comes after it. -/
def lateCreation : List TimedEvidence :=
  [{ id := "1", source := .event, type := .transition, at' := some 10, fromField := .text "open", toField := .text "pause",
     time := 10 },
   { id := "2", source := .event, type := .transition, at' := some 20, fromField := .text "pause",
     toField := .text "in_progress", time := 20 },
   { id := "3", source := .event, type := .transition, at' := some 30, fromField := .text "in_progress", toField := .null,
     time := 30 },
   { createdOpen "4" 40 with time := 40 },
   { id := "5", source := .event, type := .transition, at' := some 50, fromField := .text "pause",
     toField := .text "in_progress", pausedAt := some 5, time := 50 }]

end ComplianceHub.Interruption
