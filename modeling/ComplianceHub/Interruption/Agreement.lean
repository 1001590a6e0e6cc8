import ComplianceHub.Lib.Sort
import ComplianceHub.Interruption.Reconstruction
import Mathlib.Data.List.Sort
import Mathlib.Tactic.Cases

/-!
# Reconstruction agrees with direct recording

A ticket's status changes, recorded both in its ledger and as event records. Replaying the records without the
ledger gives the ledger's intervals.

* `recordChanges`, `transitionRecords` : the two recordings of one list of changes;
* `mirrors_recordChanges` : the ledger of the changes;
* `sortEvidence_eq_of_pairwise`, `coalesce_of_source` : coherent records in any order replay in time order;
* `replay_transitions` : what the replay automaton holds after them;
* `reconstruct_eq_recordChanges` : the projection is the ledger, an open interval closed at now.
-/

namespace ComplianceHub.Interruption

/-- A status change, with the id of its event record. -/
structure StatusChange where
  id : String
  at' : Int
  status : TicketStatus

/-- The event record of a change. -/
def transitionRecord (fromStatus : TicketStatus) (c : StatusChange) : HistoricalInterruptionEvidence :=
  { id := c.id, source := .event, type := .transition, at' := some c.at',
    fromField := .text fromStatus.text, toField := .text c.status.text }

def transitionRecords (fromStatus : TicketStatus) : List StatusChange → List HistoricalInterruptionEvidence
  | [] => []
  | c :: rest => transitionRecord fromStatus c :: transitionRecords c.status rest

/-- The ledger after the changes. -/
def recordChanges (history : Option TicketInterruptionHistory) (fromStatus : TicketStatus) :
    List StatusChange → Option TicketInterruptionHistory
  | [] => history
  | c :: rest => recordChanges (recordInterruptionTransition history fromStatus c.status c.at') c.status rest

def finalStatus (initial : TicketStatus) : List StatusChange → TicketStatus
  | [] => initial
  | c :: rest => finalStatus c.status rest

def timelineOf (changes : List StatusChange) : List (Int × TicketStatus) :=
  changes.map fun c => (c.at', c.status)

/-- A ledger interval as a report interval, an open one closed at `now`. -/
def estimatedAt (now : Int) (interval : TicketInterruption) : ReportInterruptionInterval :=
  { kind := interval.kind, startAt := interval.startAt
    endAt := some (interval.endAt.getD (toISOString now)), estimated := true }

theorem mirrors_recordChanges {history : Option TicketInterruptionHistory} {timeline : List (Int × TicketStatus)}
    {t : Int} {fromStatus : TicketStatus} (changes : List StatusChange) (h : Mirrors history timeline)
    (hlast : timeline.getLast? = some (t, fromStatus)) (hlt : changes.Pairwise fun c d => c.at' < d.at')
    (hle : ∀ c ∈ changes, t ≤ c.at') :
    Mirrors (recordChanges history fromStatus changes) (timeline ++ timelineOf changes) := by
  induction changes generalizing history timeline t fromStatus with
  | nil => simpa [timelineOf, recordChanges] using h
  | cons c rest ih =>
    obtain ⟨hc, hrest⟩ := List.pairwise_cons.mp hlt
    have := ih (h.record hlast (hle c List.mem_cons_self) c.status) List.getLast?_concat hrest
      fun d hd => (hc d hd).le
    simpa [timelineOf, recordChanges] using this

/-! ## Records in replay order -/

section Order

variable {localeCompare : String → String → Ordering}

instance evidenceCompare_trans [Std.TransCmp localeCompare] : Std.TransCmp (evidenceCompare localeCompare) := by
  have : Std.TransCmp fun a b : TimedEvidence => localeCompare a.id b.id :=
    { eq_swap := Std.OrientedCmp.eq_swap
      isLE_trans := Std.TransCmp.isLE_trans }
  unfold evidenceCompare
  infer_instance

theorem evidenceCompare_of_time_lt {a b : TimedEvidence} (h : a.time < b.time) :
    evidenceCompare localeCompare a b = .lt := by
  simp [evidenceCompare, compareLex, compareOn, Int.compare_eq_lt.mpr h]

/-- The records whose dates parse and lie in range. -/
def validEvidence (created now : Int) (evidence : List HistoricalInterruptionEvidence) : List TimedEvidence :=
  (evidence.filterMap fun item => item.at'.map fun time => ({ item with time := time } : TimedEvidence)).filter
    fun item => created ≤ item.time ∧ item.time ≤ now

/-- They are sorted into the order that separates them. -/
theorem sortEvidence_eq_of_perm [Std.TransCmp localeCompare] {created now : Int} {items : List TimedEvidence}
    {evidence : List HistoricalInterruptionEvidence} (hperm : (validEvidence created now evidence).Perm items)
    (hlt : items.Pairwise fun a b => evidenceCompare localeCompare a b = .lt) :
    sortEvidence localeCompare created now evidence = items :=
  Lib.mergeSort_eq_of_perm hperm hlt

/-- Records whose dates parse and lie in range are sorted into the order that separates them. -/
theorem sortEvidence_eq_of_pairwise [Std.TransCmp localeCompare] {created now : Int} {items : List TimedEvidence}
    {evidence : List HistoricalInterruptionEvidence}
    (hperm : evidence.Perm (items.map TimedEvidence.toHistoricalInterruptionEvidence))
    (hat : ∀ item ∈ items, item.at' = some item.time) (hrange : ∀ item ∈ items, created ≤ item.time ∧ item.time ≤ now)
    (hlt : items.Pairwise fun a b => evidenceCompare localeCompare a b = .lt) :
    sortEvidence localeCompare created now evidence = items := by
  have htimed : (items.map TimedEvidence.toHistoricalInterruptionEvidence).filterMap
      (fun item => item.at'.map fun time => ({ item with time := time } : TimedEvidence)) = items := by
    rw [List.filterMap_map]
    conv_rhs => rw [← List.filterMap_some (l := items)]
    refine List.filterMap_congr fun item hitem => ?_
    simp [hat item hitem]
  have hsub := (hperm.filterMap fun item => item.at'.map fun time => ({ item with time := time } : TimedEvidence))
  rw [htimed] at hsub
  have hfilter : items.filter (fun item => created ≤ item.time ∧ item.time ≤ now) = items :=
    List.filter_eq_self.mpr fun item hitem => by simpa using hrange item hitem
  have hvalid := hsub.filter fun item => created ≤ item.time ∧ item.time ≤ now
  rw [hfilter] at hvalid
  exact sortEvidence_eq_of_perm hvalid hlt

end Order

/-- Copies need two sources: transitions of one source are all kept. -/
theorem coalesce_of_source (source : EvidenceSource) (items transitions : List TimedEvidence)
    (hitems : ∀ item ∈ items, item.type = .transition → item.source = source)
    (hkept : ∀ item ∈ transitions, item.type = .transition → item.source = source) :
    coalesce transitions items = transitions ++ items := by
  induction items generalizing transitions with
  | nil => simp [coalesce]
  | cons item rest ih =>
    have hcopy : isCopy transitions item = false := by
      by_cases ht : item.type = .transition
      · simp only [isCopy, ht, decide_true, Bool.true_and, List.any_eq_false]
        intro previous hprevious
        have hmem := List.mem_of_mem_drop hprevious
        by_cases hp : previous.type = .transition
        · simp [hkept previous hmem hp, hitems item List.mem_cons_self ht]
        · simp [hp]
      · simp [isCopy, ht]
    rw [coalesce, hcopy, if_neg Bool.false_ne_true, ih]
    · simp
    · exact fun item' h => hitems item' (List.mem_cons_of_mem _ h)
    · intro item' h
      rcases List.mem_append.mp h with h | h
      · exact hkept item' h
      · rw [List.mem_singleton.mp h]
        exact hitems item List.mem_cons_self

/-! ## Replaying the transitions -/

def timedRecord (fromStatus : TicketStatus) (c : StatusChange) : TimedEvidence :=
  { transitionRecord fromStatus c with time := c.at' }

def timedRecords (fromStatus : TicketStatus) : List StatusChange → List TimedEvidence
  | [] => []
  | c :: rest => timedRecord fromStatus c :: timedRecords c.status rest

/-- The replay is in status `s`, inside the interruption `current` if there is one. -/
structure Coherent (r : Replay) (s : TicketStatus) (current : Option (InterruptionKind × Int)) : Prop where
  state : r.state = some s
  openEpisode : r.openEpisode = current.map fun c => ⟨c.1, c.2⟩
  kind_eq : current.map Prod.fst = kind s
  sawEvidence : r.sawEvidence = true

theorem Coherent.adoptFrom {r : Replay} {s : TicketStatus} {current : Option (InterruptionKind × Int)}
    (h : Coherent r s current) (ctx : ReplayContext) (item : TimedEvidence) : adoptFrom ctx r item s = r := by
  have hk := h.kind_eq
  cases current with
  | none => simp_all [Interruption.adoptFrom, h.state, h.openEpisode, ← hk]
  | some c => simp [Interruption.adoptFrom, h.state, h.openEpisode, ← hk]

/-- A coherent transition is entered; a change to the same status is passed over. -/
theorem Coherent.replayItem {r : Replay} {s : TicketStatus} {current : Option (InterruptionKind × Int)}
    (h : Coherent r s current) (ctx : ReplayContext) (c : StatusChange) :
    replayItem ctx r (timedRecord s c) = if c.status = s then r else enter ctx r c.at' c.status := by
  have hsaw : { r with state := some s, sawEvidence := true } = r := by
    rw [← h.sawEvidence, ← h.state]
  have htext : Field.text s.text = Field.text c.status.text ↔ c.status = s :=
    ⟨fun heq => text_injective (Field.text.inj heq).symm, fun heq => by rw [heq]⟩
  simp only [Interruption.replayItem, timedRecord, transitionRecord, status?_text, h.state, isFalsy_text, htext,
    reduceCtorEq, false_or, if_false, Option.some.injEq, Bool.false_eq_true, and_true]
  rw [hsaw]
  split_ifs with hsame
  · rfl
  · exact congrArg (fun r => enter ctx r c.at' c.status) (h.adoptFrom ctx _)

theorem replay_transitions {ctx : ReplayContext} {now : Int} (hhorizon : ctx.horizon = now) (changes : List StatusChange)
    {r : Replay} {s : TicketStatus} {current : Option (InterruptionKind × Int)} (h : Coherent r s current)
    (hcurrent : ∀ c ∈ current, c.2 < now ∧ ∀ d ∈ changes, c.2 < d.at')
    (hlt : changes.Pairwise fun c d => c.at' < d.at') (hnow : ∀ c ∈ changes, c.at' < now) :
    ∃ last, Coherent (replay ctx r (timedRecords s changes)) (finalStatus s changes) last ∧
      (∀ c ∈ last, c.2 < now) ∧
      (replay ctx r (timedRecords s changes)).coveredFrom = r.coveredFrom ∧
      (replay ctx r (timedRecords s changes)).unresolved = r.unresolved ∧
      (replay ctx r (timedRecords s changes)).intervals ++
          (last.map fun c => estimatedAt now ⟨c.1, toISOString c.2, none⟩).toList =
        r.intervals ++ (periodsFrom current (timelineOf changes)).map (estimatedAt now) := by
  induction changes generalizing r s current with
  | nil =>
    refine ⟨current, h, fun c hc => (hcurrent c hc).1, rfl, rfl, ?_⟩
    cases current <;> rfl
  | cons c rest ih =>
    obtain ⟨hc, hrest⟩ := List.pairwise_cons.mp hlt
    have hcnow := hnow c List.mem_cons_self
    have hrestnow : ∀ d ∈ rest, d.at' < now := fun d hd => hnow d (List.mem_cons_of_mem _ hd)
    have hpast : ¬ ctx.horizon < (timedRecord s c).time := by
      rw [hhorizon]
      exact hcnow.not_gt
    simp only [timedRecords, replay, if_neg hpast, h.replayItem, finalStatus]
    by_cases hsame : c.status = s
    · -- the same status: the running period goes on
      have hperiods : periodsFrom current (timelineOf (c :: rest)) = periodsFrom current (timelineOf rest) := by
        have hk := h.kind_eq
        cases current with
        | none => simp_all [timelineOf, periodsFrom, ← hk]
        | some e => simp [timelineOf, periodsFrom, hsame, ← hk]
      rw [if_pos hsame, hperiods, hsame]
      exact ih h (fun e he => ⟨(hcurrent e he).1, fun d hd => (hcurrent e he).2 d (List.mem_cons_of_mem _ hd)⟩)
        hrest hrestnow
    · rw [if_neg hsame]
      have hnext : Coherent (enter ctx r c.at' c.status) c.status ((kind c.status).map fun k => (k, c.at')) := by
        refine ⟨rfl, ?_, ?_, h.sawEvidence⟩ <;> cases hk : kind c.status <;> simp [enter, hk]
      obtain ⟨last, hlast, hlt, hcovered, hunresolved, hintervals⟩ := ih hnext (fun e he => by
        obtain ⟨k, -, rfl⟩ := Option.map_eq_some_iff.mp he
        exact ⟨hcnow, hc⟩) hrest hrestnow
      refine ⟨last, hlast, hlt, hcovered, hunresolved, hintervals.trans ?_⟩
      cases current with
      | none => simp [enter, h.openEpisode, timelineOf, periodsFrom]
      | some e =>
        obtain ⟨k, since⟩ := e
        have hsince : since < c.at' := (hcurrent _ rfl).2 c List.mem_cons_self
        have hne : kind c.status ≠ some k := fun hk =>
          hsame ((kind_eq_some.mp hk).trans (kind_eq_some.mp h.kind_eq.symm).symm)
        simp [enter, emit, h.openEpisode, timelineOf, periodsFrom, hne, hhorizon, min_eq_left hcnow.le, hsince,
          estimatedAt]

/-! ## The whole projection -/

theorem map_timedRecords (s : TicketStatus) (changes : List StatusChange) :
    (timedRecords s changes).map TimedEvidence.toHistoricalInterruptionEvidence = transitionRecords s changes := by
  induction changes generalizing s with
  | nil => rfl
  | cons c rest ih => simp [timedRecords, transitionRecords, timedRecord, ih]

theorem mem_timedRecords {s : TicketStatus} {changes : List StatusChange} {item : TimedEvidence}
    (h : item ∈ timedRecords s changes) : ∃ c ∈ changes, ∃ t, item = timedRecord t c := by
  induction changes generalizing s with
  | nil => simp [timedRecords] at h
  | cons c rest ih =>
    rcases List.mem_cons.mp h with rfl | h
    · exact ⟨c, List.mem_cons_self, s, rfl⟩
    · obtain ⟨d, hd, ht⟩ := ih h
      exact ⟨d, List.mem_cons_of_mem _ hd, ht⟩

theorem timedRecords_pairwise (localeCompare : String → String → Ordering) (s : TicketStatus)
    {changes : List StatusChange} (hlt : changes.Pairwise fun c d => c.at' < d.at') :
    (timedRecords s changes).Pairwise fun a b => evidenceCompare localeCompare a b = .lt := by
  induction changes generalizing s with
  | nil => exact List.Pairwise.nil
  | cons c rest ih =>
    obtain ⟨hc, hrest⟩ := List.pairwise_cons.mp hlt
    refine List.pairwise_cons.mpr ⟨fun item hitem => ?_, ih _ hrest⟩
    obtain ⟨d, hd, t, rfl⟩ := mem_timedRecords hitem
    exact evidenceCompare_of_time_lt (hc d hd)

/-- The created record of a ticket: dated from its creation on, and replayed before the first change. -/
structure IsCreatedRecord (localeCompare : String → String → Ordering) (createdAt : Int) (initial : TicketStatus)
    (changes : List StatusChange) (now : Int) (created : HistoricalInterruptionEvidence) (time : Int) : Prop where
  type : created.type = .created
  at' : created.at' = some time
  toField : created.toField = .text initial.text
  after_creation : createdAt ≤ time
  before_now : time ≤ now
  before_changes : ∀ c ∈ changes.head?,
    time < c.at' ∨ time = c.at' ∧ (created.source = .audit ∨ localeCompare created.id c.id = .lt)

theorem IsCreatedRecord.compare_lt {localeCompare : String → String → Ordering} {createdAt now time : Int}
    {initial : TicketStatus} {changes : List StatusChange} {created : HistoricalInterruptionEvidence}
    (h : IsCreatedRecord localeCompare createdAt initial changes now created time)
    (hlt : changes.Pairwise fun c d => c.at' < d.at') :
    ∀ item ∈ timedRecords initial changes, evidenceCompare localeCompare { created with time := time } item = .lt := by
  intro item hitem
  have h01 : compare (0 : Nat) 1 = .lt := rfl
  cases changes with
  | nil => simp [timedRecords] at hitem
  | cons c rest =>
    obtain ⟨hc, -⟩ := List.pairwise_cons.mp hlt
    rcases List.mem_cons.mp hitem with rfl | hitem
    · rcases h.before_changes c rfl with hlt | ⟨heq, htie⟩
      · exact evidenceCompare_of_time_lt hlt
      · rcases htie with haudit | hid
        · simp [evidenceCompare, compareLex, compareOn, timedRecord, transitionRecord, heq, haudit, h01]
        · by_cases haudit : created.source = .audit <;>
            simp [evidenceCompare, compareLex, compareOn, timedRecord, transitionRecord, heq, haudit, hid, h01]
    · obtain ⟨d, hd, t, rfl⟩ := mem_timedRecords hitem
      refine evidenceCompare_of_time_lt ?_
      have hdlt : c.at' < d.at' := hc d hd
      rcases h.before_changes c rfl with hlt | ⟨heq, -⟩
      · exact hlt.trans hdlt
      · exact heq.trans_lt hdlt

/-- What the replay reads of coherent records: all of them in time order, and no justification. -/
theorem sortEvidence_eq {localeCompare : String → String → Ordering} [Std.TransCmp localeCompare] {createdAt now time : Int}
    {initial : TicketStatus} {changes : List StatusChange} {created : HistoricalInterruptionEvidence}
    {evidence : List HistoricalInterruptionEvidence} (hafter : ∀ c ∈ changes, createdAt < c.at')
    (hlt : changes.Pairwise fun c d => c.at' < d.at') (hnow : ∀ c ∈ changes, c.at' < now)
    (hcreated : IsCreatedRecord localeCompare createdAt initial changes now created time)
    (hperm : evidence.Perm (created :: transitionRecords initial changes)) :
    sortEvidence localeCompare createdAt now evidence =
      { created with time := time } :: timedRecords initial changes := by
  refine sortEvidence_eq_of_pairwise ?_ ?_ ?_ ?_
  · simpa [map_timedRecords] using hperm
  · intro item hitem
    rcases List.mem_cons.mp hitem with rfl | hitem
    · exact hcreated.at'
    · obtain ⟨c, -, t, rfl⟩ := mem_timedRecords hitem
      rfl
  · intro item hitem
    rcases List.mem_cons.mp hitem with rfl | hitem
    · exact ⟨hcreated.after_creation, hcreated.before_now⟩
    · obtain ⟨c, hc, t, rfl⟩ := mem_timedRecords hitem
      exact ⟨(hafter c hc).le, (hnow c hc).le⟩
  · exact List.pairwise_cons.mpr ⟨hcreated.compare_lt hlt, timedRecords_pairwise localeCompare initial hlt⟩

/-- The created record starts a coherent replay that covers the ticket from its creation. -/
theorem replayItem_created {localeCompare : String → String → Ordering} {now time : Int} {initial : TicketStatus}
    {changes : List StatusChange} {created : HistoricalInterruptionEvidence} (ctx : ReplayContext)
    (h : IsCreatedRecord localeCompare ctx.created initial changes now created time) (hinitial : kind initial = none) :
    Coherent (replayItem ctx { lastStateAt := ctx.created } { created with time := time }) initial none ∧
      (replayItem ctx { lastStateAt := ctx.created } { created with time := time }).coveredFrom = ctx.created ∧
      (replayItem ctx { lastStateAt := ctx.created } { created with time := time }).unresolved = [] ∧
      (replayItem ctx { lastStateAt := ctx.created } { created with time := time }).intervals = [] := by
  simp only [replayItem, h.type, h.toField, status?_text, if_true]
  exact ⟨⟨rfl, rfl, hinitial.symm, rfl⟩, trivial, trivial, trivial⟩

/-- At the end of a coherent replay of the ticket's own status, the open episode ends at the horizon. -/
theorem Coherent.closeLast {r : Replay} {ticket : ReportTicket} {current : Option (InterruptionKind × Int)}
    (h : Coherent r ticket.status current) {ctx : ReplayContext} {now : Int} (hhorizon : ctx.horizon = now)
    (hcurrent : ∀ c ∈ current, c.2 < now) :
    closeLast ctx ticket (openFromStatus ctx ticket now r) =
      { r with
        intervals := r.intervals ++ (current.map fun c => estimatedAt now ⟨c.1, toISOString c.2, none⟩).toList } := by
  cases current with
  | none =>
    have hk : kind ticket.status = none := h.kind_eq.symm
    have hopen : r.openEpisode = none := h.openEpisode
    simp only [openFromStatus, Interruption.closeLast, hk, hopen, Option.map_none, Option.toList_none, List.append_nil]
    rw [← hopen]
  | some c =>
    obtain ⟨k, since⟩ := c
    have hopen : r.openEpisode = some ⟨k, since⟩ := h.openEpisode
    have hstatus : ticket.status = k.status := kind_eq_some.mp h.kind_eq.symm
    have hsince : since < now := hcurrent _ rfl
    simp [openFromStatus, Interruption.closeLast, hopen, hstatus, emit, hhorizon, hsince, estimatedAt]

theorem timed_type {created : HistoricalInterruptionEvidence} (hcreated : created.type = .created) (time : Int)
    (initial : TicketStatus) (changes : List StatusChange) :
    ∀ item ∈ ({ created with time := time } : TimedEvidence) :: timedRecords initial changes,
      item.type ≠ .justification ∧ (item.type = .transition → item.source = .event) := by
  intro item hitem
  rcases List.mem_cons.mp hitem with rfl | hitem
  · simp [hcreated]
  · obtain ⟨c, -, t, rfl⟩ := mem_timedRecords hitem
    simp [timedRecord, transitionRecord]

/-- Without a ledger, a replay that ends in the ticket's own status is reported as it is. -/
theorem reconstruct_of_no_ledger (localeCompare : String → String → Ordering) {ticket : ReportTicket}
    (evidence : List HistoricalInterruptionEvidence) (start now : Int) {valid transitions : List TimedEvidence}
    (hledger : ticket.interruptionHistory = none)
    (hvalid : sortEvidence localeCompare ticket.createdAt now evidence = valid)
    (htransitions : coalesce [] (valid.filter fun item => item.type ≠ .justification) = transitions) {r : Replay}
    (hr : closeLast (replayContext ticket.createdAt now false valid) ticket
      (openFromStatus (replayContext ticket.createdAt now false valid) ticket now
        (replay (replayContext ticket.createdAt now false valid) { lastStateAt := ticket.createdAt } transitions)) = r)
    (hstate : r.state = some ticket.status) (hsaw : r.sawEvidence = true) (hunresolved : r.unresolved = []) :
    reconstructReportInterruptions localeCompare ticket evidence start now =
      { intervals := (r.intervals.filter fun interval => interval.startAt.any (· < now)).mergeSort startLE
        complete := r.coveredFrom ≤ (max ticket.createdAt start : Int)
        reconstructed := true
        unresolved := [] } := by
  simp only [reconstructReportInterruptions, hledger, usableInterruptionHistory, hasRecordedMonthlyHistory,
    Option.filter_none, Option.map_none, Option.bind_none, Option.getD_none, Option.isSome_none, min_self, hvalid,
    htransitions, hr]
  simp [hstate, hsaw, hunresolved]

/-- The projection of coherent records, in any order and without the ledger, is the ledger. -/
theorem reconstruct_eq_recordChanges (localeCompare : String → String → Ordering) [Std.TransCmp localeCompare]
    (ticket : ReportTicket) (initial : TicketStatus) (changes : List StatusChange)
    (created : HistoricalInterruptionEvidence) (time : Int) (evidence : List HistoricalInterruptionEvidence)
    (start now : Int) (hinitial : kind initial = none) (hafter : ∀ c ∈ changes, ticket.createdAt < c.at')
    (hlt : changes.Pairwise fun c d => c.at' < d.at') (hnow : ∀ c ∈ changes, c.at' < now)
    (hcreated : IsCreatedRecord localeCompare ticket.createdAt initial changes now created time)
    (hperm : evidence.Perm (created :: transitionRecords initial changes))
    (hstatus : ticket.status = finalStatus initial changes) (hledger : ticket.interruptionHistory = none) :
    ∃ ledger, recordChanges (some (newInterruptionHistory ticket.createdAt)) initial changes = some ledger ∧
      (reconstructReportInterruptions localeCompare ticket evidence start now).intervals =
        ledger.intervals.map (estimatedAt now) ∧
      (reconstructReportInterruptions localeCompare ticket evidence start now).unresolved = [] ∧
      (reconstructReportInterruptions localeCompare ticket evidence start now).complete = true := by
  -- the ledger of the changes
  have hmirrors := mirrors_recordChanges changes (mirrors_new ticket.createdAt hinitial) rfl hlt fun c hc => (hafter c hc).le
  obtain ⟨captured, hcaptured, heq⟩ := hmirrors.eq
  refine ⟨_, heq, ?_⟩
  have hperiods : periods ([(ticket.createdAt, initial)] ++ timelineOf changes) = periodsFrom none (timelineOf changes) := by
    simp [periods, periodsFrom, hinitial]
  rw [hperiods]
  -- the records, sorted and without copies
  have hvalid := sortEvidence_eq hafter hlt hnow hcreated hperm
  set items : List TimedEvidence := { created with time := time } :: timedRecords initial changes with hitems
  have htypes := timed_type hcreated.type time initial changes
  have hcoalesce : coalesce [] (items.filter fun item => item.type ≠ .justification) = items := by
    rw [List.filter_eq_self.mpr fun item hitem => by simpa using (htypes item hitem).1]
    exact coalesce_of_source .event items [] (fun item hitem => (htypes item hitem).2) (by simp)
  -- the replay of all of them
  set ctx := replayContext ticket.createdAt now false items
  obtain ⟨hstart, hcovered, hunresolved, hintervals⟩ := replayItem_created ctx hcreated hinitial
  obtain ⟨last, hlast, hlastnow, hcovered', hunresolved', hintervals'⟩ :=
    replay_transitions (show ctx.horizon = now from rfl) changes hstart (by simp) hlt hnow
  have hreplay : replay ctx { lastStateAt := ticket.createdAt } items =
      replay ctx (replayItem ctx { lastStateAt := ctx.created } { created with time := time })
        (timedRecords initial changes) := by
    have hpast : ¬ ctx.horizon < time := hcreated.before_now.not_gt
    rw [hitems, replay, if_neg hpast]
    rfl
  rw [← hreplay] at hlast hcovered' hunresolved' hintervals'
  rw [← hstatus] at hlast
  have hclose := hlast.closeLast (show ctx.horizon = now from rfl) hlastnow
  rw [hintervals', hintervals, List.nil_append] at hclose
  rw [reconstruct_of_no_ledger localeCompare evidence start now hledger hvalid hcoalesce hclose hlast.state
    hlast.sawEvidence (hunresolved'.trans hunresolved)]
  -- the intervals of the replay are in time order and start before now
  have hbefore : ((periodsFrom none (timelineOf changes)).map (estimatedAt now)).filter
      (fun interval => interval.startAt.any (· < now)) = (periodsFrom none (timelineOf changes)).map (estimatedAt now) := by
    refine List.filter_eq_self.mpr fun interval hinterval => ?_
    obtain ⟨i, hi, rfl⟩ := List.mem_map.mp hinterval
    obtain ⟨t, ht, ⟨c, hc, -⟩ | ⟨e, he, rfl⟩⟩ := startAt_of_mem_periodsFrom _ _ hi
    · simp at hc
    · obtain ⟨c, hc, rfl⟩ := List.mem_map.mp he
      simpa [estimatedAt, ht] using hnow c hc
  have hordered : ((periodsFrom none (timelineOf changes)).map (estimatedAt now)).mergeSort startLE =
      (periodsFrom none (timelineOf changes)).map (estimatedAt now) := by
    refine List.mergeSort_of_pairwise (List.pairwise_map.mpr ?_)
    have husable := usableIntervals_periodsFrom _ none captured hmirrors.ordered hcaptured (by simp)
    rw [List.singleton_append, periodsFrom, hinitial] at husable
    refine (usableIntervals_starts _ _ husable).2.imp ?_
    rintro i j ⟨s, t, hs, ht, hle⟩
    simpa [startLE, estimatedAt, hs, ht] using hle
  refine ⟨by rw [hbefore, hordered], rfl, ?_⟩
  have hcreated : (ctx.created : WithTop Int) ≤ (max ticket.createdAt start : Int) :=
    WithTop.coe_le_coe.mpr (le_max_left _ _)
  exact decide_eq_true ((hcovered'.trans hcovered).le.trans hcreated)

/-! ## Two concrete records -/

/-- The value of a text of decimal digits. -/
def digits (text : String) : Nat :=
  text.toList.foldl (fun n c => 10 * n + (c.toNat - '0'.toNat)) 0

/-- The numeric collation on ids that are texts of decimal digits. -/
def digitsCompare : String → String → Ordering := compareOn digits

instance : Std.TransCmp digitsCompare := inferInstanceAs (Std.TransCmp (compareOn digits))

def createdOpen (id : String) (time : Int) : HistoricalInterruptionEvidence :=
  { id, source := .event, type := .created, at' := some time, toField := .text "open" }

/-- A ticket paused at 8 and resumed at 12, its records read in reverse. -/
theorem reconstruct_eq_recordChanges_paused :
    let changes : List StatusChange := [⟨"2", 5, .assigned⟩, ⟨"3", 8, .pause⟩, ⟨"4", 12, .in_progress⟩]
    let evidence := (createdOpen "1" 5 :: transitionRecords .open changes).reverse
    let result := reconstructReportInterruptions digitsCompare { status := .in_progress, createdAt := 0 } evidence 3 20
    ∃ ledger, recordChanges (some (newInterruptionHistory 0)) .open changes = some ledger ∧
      result.intervals = ledger.intervals.map (estimatedAt 20) ∧ result.unresolved = [] ∧ result.complete = true :=
  reconstruct_eq_recordChanges digitsCompare { status := .in_progress, createdAt := 0 } .open _ (createdOpen "1" 5) 5 _
    3 20 (by decide) (by decide) (by decide) (by decide)
    ⟨rfl, rfl, rfl, by decide, by decide, by decide⟩ (List.reverse_perm _) rfl rfl

/-- A created record of the instant of the first change can be replayed after it, and then covers nothing before. -/
theorem reconstruct_incomplete_of_created_tie :
    ¬ ∀ (ticket : ReportTicket) (initial : TicketStatus) (changes : List StatusChange)
      (created : HistoricalInterruptionEvidence) (time : Int) (evidence : List HistoricalInterruptionEvidence)
      (start now : Int), kind initial = none → (∀ c ∈ changes, ticket.createdAt < c.at') →
      (changes.Pairwise fun c d => c.at' < d.at') → (∀ c ∈ changes, c.at' < now) →
      created.type = .created → created.at' = some time → created.toField = .text initial.text →
      ticket.createdAt ≤ time → (∀ c ∈ changes, time ≤ c.at') →
      evidence.Perm (created :: transitionRecords initial changes) →
      ticket.status = finalStatus initial changes → ticket.interruptionHistory = none →
      (reconstructReportInterruptions digitsCompare ticket evidence start now).complete = true := by
  intro h
  let changes : List StatusChange := [⟨"1", 5, .assigned⟩]
  have hcomplete := h { status := .assigned, createdAt := 0 } .open changes (createdOpen "2" 5) 5 _ 0 10 (by decide)
    (by decide) (by decide) (by decide) rfl rfl rfl (by decide) (by decide) (List.Perm.refl _) rfl rfl
  have hvalid : sortEvidence digitsCompare 0 10 (createdOpen "2" 5 :: transitionRecords .open changes) =
      [timedRecord .open ⟨"1", 5, .assigned⟩, { createdOpen "2" 5 with time := 5 }] :=
    sortEvidence_eq_of_pairwise (List.Perm.swap _ _ _) (by decide) (by decide) (by decide)
  simp only [reconstructReportInterruptions, hvalid] at hcomplete
  revert hcomplete
  decide

end ComplianceHub.Interruption
