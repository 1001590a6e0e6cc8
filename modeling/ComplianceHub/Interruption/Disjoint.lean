import ComplianceHub.Interruption.Agreement

/-!
# Replayed intervals that do not overlap

* `Apart`, `Disjoint` : intervals that share no second; `IsEstimate` : an estimated interval within its limits;
* `Clear` : the open episode of a replay begins after the intervals it has emitted;
* `RecoversClear` : no record of a replay recovers a start from before the end of an emitted interval;
* `disjoint_replay` : a replay emits disjoint intervals if and only if it recovers clear starts.
-/

namespace ComplianceHub.Interruption

/-- One interval ends before another starts. -/
def Before (a b : ReportInterruptionInterval) : Prop :=
  ∃ stop, endTime a.endAt = some stop ∧ ∃ start : Int, b.startAt = some start ∧ stop ≤ (start : WithTop Int)

/-- Two intervals share no second. -/
def Apart (a b : ReportInterruptionInterval) : Prop := Before a b ∨ Before b a

def Disjoint (intervals : List ReportInterruptionInterval) : Prop := intervals.Pairwise Apart

theorem Apart.symm {a b : ReportInterruptionInterval} (h : Apart a b) : Apart b a := Or.symm h

/-- An estimated interval, from the creation of the ticket to a limit. -/
structure IsEstimate (created limit : Int) (i : ReportInterruptionInterval) (start stop : Int) : Prop where
  startAt : i.startAt = some start
  endAt : i.endAt = some (some stop)
  estimated : i.estimated = true
  created : created ≤ start
  lt : start < stop
  limit : stop ≤ limit

def Estimates (created limit : Int) (intervals : List ReportInterruptionInterval) : Prop :=
  ∀ i ∈ intervals, ∃ start stop, IsEstimate created limit i start stop

/-- Every interval has ended by an instant. -/
def EndsBy (time : Int) (intervals : List ReportInterruptionInterval) : Prop :=
  ∀ i ∈ intervals, ∀ stop, i.endAt = some (some stop) → stop ≤ time

/-- The open episode begins after the intervals that are emitted. -/
def Clear (r : Replay) : Prop := ∀ entry, r.openEpisode = some entry → EndsBy entry.start r.intervals

variable {created limit horizon time stop : Int} {intervals : List ReportInterruptionInterval} {entry : OpenEpisode}

theorem Estimates.mono (h : Estimates created limit intervals) {limit' : Int} (hle : limit ≤ limit') :
    Estimates created limit' intervals := by
  intro i hi
  obtain ⟨start, stop, hi⟩ := h i hi
  exact ⟨start, stop, hi.startAt, hi.endAt, hi.estimated, hi.created, hi.lt, hi.limit.trans hle⟩

theorem Estimates.endsBy (h : Estimates created limit intervals) : EndsBy limit intervals := by
  intro i hi stop hstop
  obtain ⟨start, stop', hi⟩ := h i hi
  rw [hi.endAt] at hstop
  cases hstop
  exact hi.limit

theorem EndsBy.mono (h : EndsBy time intervals) {time' : Int} (hle : time ≤ time') : EndsBy time' intervals :=
  fun i hi stop hstop => (h i hi stop hstop).trans hle

/-- What is emitted last is apart from an estimate that it does not precede exactly where that has ended. -/
theorem apart_emitted {i j : ReportInterruptionInterval} {s e start stop : Int} (hi : IsEstimate created limit i s e)
    (hj : IsEstimate created limit j start stop) (hle : e ≤ stop) : Apart i j ↔ e ≤ start := by
  constructor
  · rintro (⟨last, hlast, first, hfirst, hbefore⟩ | ⟨last, hlast, first, hfirst, hbefore⟩)
    · rw [hi.endAt] at hlast
      rw [hj.startAt] at hfirst
      cases hlast
      cases hfirst
      exact WithTop.coe_le_coe.mp hbefore
    · rw [hj.endAt] at hlast
      rw [hi.startAt] at hfirst
      cases hlast
      cases hfirst
      have hstop : stop ≤ s := WithTop.coe_le_coe.mp hbefore
      have hlt := hi.lt
      omega
  · intro h
    refine .inl ⟨(e : WithTop Int), ?_, start, hj.startAt, WithTop.coe_le_coe.mpr h⟩
    rw [hi.endAt]
    rfl

/-! ## Emitting an episode -/

/-- The interval of an episode until an instant. -/
def emitted (entry : OpenEpisode) (clipped : Int) : ReportInterruptionInterval where
  kind := entry.kind
  startAt := toISOString entry.start
  endAt := some (toISOString clipped)
  estimated := true

theorem isEstimate_emitted {clipped : Int} (hcreated : created ≤ entry.start) (hlt : entry.start < clipped) :
    IsEstimate created clipped (emitted entry clipped) entry.start clipped :=
  ⟨rfl, rfl, rfl, hcreated, hlt, le_rfl⟩

theorem estimates_emit (h : Estimates created limit intervals) (hcreated : created ≤ entry.start)
    (hlimit : min stop horizon ≤ limit) : Estimates created limit (emit horizon intervals entry stop) := by
  unfold emit
  dsimp only
  split_ifs with hlt
  · intro i hi
    rcases List.mem_append.mp hi with hi | hi
    · exact h i hi
    · rw [List.mem_singleton.mp hi]
      exact ⟨_, _, rfl, rfl, rfl, hcreated, hlt, hlimit⟩
  · exact h

/-- An episode that begins after the intervals is emitted apart from them. -/
theorem disjoint_emit_of_endsBy (h : Estimates created limit intervals)
    (hends : EndsBy entry.start intervals) (stop : Int) :
    Disjoint (emit horizon intervals entry stop) ↔ Disjoint intervals := by
  unfold emit
  dsimp only
  split_ifs with hlt
  · refine ⟨fun hdisjoint => (List.pairwise_append.mp hdisjoint).1, fun hdisjoint => ?_⟩
    refine List.pairwise_append.mpr ⟨hdisjoint, List.pairwise_singleton _ _, fun i hi j hj => ?_⟩
    obtain ⟨s, e, hi'⟩ := h i hi
    have hle := hends i hi e hi'.endAt
    rw [List.mem_singleton.mp hj]
    refine .inl ⟨(e : WithTop Int), ?_, entry.start, rfl, WithTop.coe_le_coe.mpr hle⟩
    rw [hi'.endAt]
    rfl
  · exact Iff.rfl

/-- An episode is emitted apart from intervals that ended before its end, if and only if they ended before its start. -/
theorem disjoint_emit (h : Estimates created (min stop horizon) intervals) (hcreated : created ≤ entry.start) :
    Disjoint (emit horizon intervals entry stop) ↔ Disjoint intervals ∧ EndsBy entry.start intervals := by
  constructor
  · intro hdisjoint
    unfold emit at hdisjoint
    dsimp only at hdisjoint
    split_ifs at hdisjoint with hlt
    · obtain ⟨hold, -, hlast⟩ := List.pairwise_append.mp hdisjoint
      refine ⟨hold, fun i hi e he => ?_⟩
      obtain ⟨s, e', hi'⟩ := h i hi
      have heq := hi'.endAt
      rw [he] at heq
      cases heq
      have hapart : Apart i (emitted entry (min stop horizon)) := hlast i hi _ (List.mem_singleton_self _)
      exact (apart_emitted hi' (isEstimate_emitted hcreated hlt) hi'.limit).mp hapart
    · exact ⟨hdisjoint, h.endsBy.mono (not_lt.mp hlt)⟩
  · rintro ⟨hdisjoint, hends⟩
    exact (disjoint_emit_of_endsBy h hends stop).mpr hdisjoint

/-! ## Replaying a record -/

variable {ctx : ReplayContext} {r : Replay} {item : TimedEvidence}

/-- The record changes the status that is replayed. -/
def Replays (r : Replay) (item : TimedEvidence) : Prop :=
  item.type ≠ .created ∧ ¬ (item.type = .extension ∨ item.fromField = item.toField) ∧
    ∃ entered, item.toField.status? = some entered ∧
      ¬ (some entered = r.state ∧ (item.fromField.isFalsy ∨ item.fromField.status? = r.state))

/-- The replay after the status that a record left. -/
def adopted (ctx : ReplayContext) (r : Replay) (item : TimedEvidence) : Replay :=
  match item.fromField.status? with
  | some left => adoptFrom ctx { r with sawEvidence := true } item left
  | none => if r.state = none then { r with sawEvidence := true, coveredFrom := item.time } else { r with sawEvidence := true }

/-- A record enters a status, or emits nothing and opens nothing. -/
theorem replayItem_cases (ctx : ReplayContext) (r : Replay) (item : TimedEvidence) :
    (Replays r item ∧ ∃ entered, replayItem ctx r item = enter ctx (adopted ctx r item) item.time entered) ∨
      ¬ Replays r item ∧ (replayItem ctx r item).intervals = r.intervals ∧
        ((replayItem ctx r item).openEpisode = r.openEpisode ∨ (replayItem ctx r item).openEpisode = none) := by
  unfold replayItem
  by_cases hcreated : item.type = .created
  · rw [if_pos hcreated]
    refine .inr ⟨fun h => h.1 hcreated, ?_⟩
    split
    · split_ifs <;> exact ⟨rfl, .inl rfl⟩
    · exact ⟨rfl, .inl rfl⟩
  · rw [if_neg hcreated]
    cases hentered : item.toField.status? with
    | none =>
      refine .inr ⟨fun ⟨_, _, entered, hknown, _⟩ => ?_, rfl, .inr rfl⟩
      rw [hentered] at hknown
      cases hknown
    | some entered =>
      dsimp only
      by_cases hextension : item.type = .extension ∨ item.fromField = item.toField
      · rw [if_pos hextension]
        exact .inr ⟨fun h => h.2.1 hextension, rfl, .inl rfl⟩
      · rw [if_neg hextension]
        by_cases hsame : some entered = r.state ∧ (item.fromField.isFalsy ∨ item.fromField.status? = r.state)
        · rw [if_pos hsame]
          refine .inr ⟨fun ⟨_, _, other, hother, hnot⟩ => ?_, rfl, .inl rfl⟩
          rw [hentered] at hother
          cases hother
          exact hnot hsame
        · rw [if_neg hsame]
          exact .inl ⟨⟨hcreated, hextension, entered, hentered, hsame⟩, entered, rfl⟩

/-- What adopting a status keeps of a replay: its intervals, and its open episode unless it is dropped. -/
structure Adopts (r r' : Replay) : Prop where
  intervals : r'.intervals = r.intervals
  lastStateAt : r'.lastStateAt = r.lastStateAt
  openEpisode : r'.openEpisode = r.openEpisode ∨ r'.openEpisode = none

theorem Adopts.refl (r : Replay) : Adopts r r := ⟨rfl, rfl, .inl rfl⟩

theorem Adopts.trans {r' r'' : Replay} (h : Adopts r r') (h' : Adopts r' r'') : Adopts r r'' := by
  refine ⟨h'.intervals.trans h.intervals, h'.lastStateAt.trans h.lastStateAt, ?_⟩
  rcases h'.openEpisode with hopen | hopen
  · rw [hopen]
    exact h.openEpisode
  · exact .inr hopen

/-- An episode that is open after adopting a status was open before, or its start is recovered. -/
structure Recovers (ctx : ReplayContext) (r : Replay) (item : TimedEvidence) (r' : Replay) : Prop where
  intervals : r'.intervals = r.intervals
  opened : ∀ entry, r'.openEpisode = some entry → r.openEpisode = some entry ∨
    ∃ k, recoverStart ctx r.lastStateAt k item.time item.pausedAt = some entry.start

theorem Adopts.recovers {r' : Replay} (h : Adopts r r') : Recovers ctx r item r' := by
  refine ⟨h.intervals, fun entry hentry => ?_⟩
  rcases h.openEpisode with hopen | hopen
  · rw [hopen] at hentry
    exact .inl hentry
  · rw [hopen] at hentry
    cases hentry

theorem recovers_adoptFrom (ctx : ReplayContext) (r : Replay) (item : TimedEvidence) (left : TicketStatus) :
    Recovers ctx r item (adoptFrom ctx r item left) := by
  unfold adoptFrom
  dsimp only
  have hfirst : Adopts r (if r.state = none then { r with state := some left, coveredFrom := item.time } else r) := by
    split_ifs
    · exact ⟨rfl, rfl, .inl rfl⟩
    · exact .refl r
  generalize (if r.state = none then { r with state := some left, coveredFrom := item.time } else r) = r₁ at hfirst ⊢
  have hsecond : Adopts r₁ (if r₁.state ≠ some left then
      { dropOpen r₁ with coveredFrom := item.time, state := some left } else r₁) := by
    split_ifs
    · exact ⟨rfl, rfl, .inr rfl⟩
    · exact .refl r₁
  generalize (if r₁.state ≠ some left then { dropOpen r₁ with coveredFrom := item.time, state := some left } else r₁) = r₂
    at hsecond ⊢
  have hadopts := hfirst.trans hsecond
  split
  · rename_i k hkind hnone
    split
    · rename_i recovered hrecovered
      rw [hadopts.lastStateAt] at hrecovered
      refine ⟨hadopts.intervals, fun entry hentry => .inr ⟨k, ?_⟩⟩
      cases hentry
      exact hrecovered
    · have hcovers : Adopts r₂ { r₂ with coveredFrom := item.time } := ⟨rfl, rfl, .inl rfl⟩
      exact (hadopts.trans hcovers).recovers
  · exact hadopts.recovers

theorem recovers_adopted (ctx : ReplayContext) (r : Replay) (item : TimedEvidence) :
    Recovers ctx r item (adopted ctx r item) := by
  unfold adopted
  split
  · rename_i left _
    obtain ⟨hintervals, hopened⟩ := recovers_adoptFrom ctx { r with sawEvidence := true } item left
    exact ⟨hintervals, hopened⟩
  · split_ifs
    · exact Adopts.recovers ⟨rfl, rfl, .inl rfl⟩
    · exact Adopts.recovers ⟨rfl, rfl, .inl rfl⟩

/-! ## Recovered starts -/

/-- The search ends at no candidate before `since`. -/
theorem le_searchFrom (candidates : List Int) (since : Int) (low high : Nat) (hle : low ≤ high)
    (hhigh : ∀ t, candidates[high]? = some t → since ≤ t) :
    ∀ t, candidates[searchFrom candidates since low high]? = some t → since ≤ t := by
  fun_induction searchFrom candidates since low high with
  | case1 low high hlt middle time htime hbefore ih => exact ih (by omega) hhigh
  | case2 low high hlt middle time htime hafter ih =>
    refine ih (by omega) fun t ht => ?_
    rw [htime] at ht
    cases ht
    omega
  | case3 low high hlt middle hnone ih =>
    refine ih (by omega) fun t ht => ?_
    rw [hnone] at ht
    cases ht
  | case4 low high hnot =>
    obtain rfl : low = high := by omega
    exact hhigh

/-- A recovered start is neither before the creation nor before the last change of status, nor after the record. -/
theorem recoverStart_eq_some {lastStateAt until' start : Int} {k : InterruptionKind} {anchor : DateText}
    (hjustified : ∀ k, ∀ t ∈ ctx.justified k, ctx.created ≤ t)
    (h : recoverStart ctx lastStateAt k until' anchor = some start) :
    ctx.created ≤ start ∧ lastStateAt ≤ start ∧ start ≤ until' := by
  unfold recoverStart at h
  split at h
  · rename_i saved hsaved
    cases h
    obtain ⟨-, hrange⟩ := Option.filter_eq_some_iff.mp hsaved
    rw [decide_eq_true_eq] at hrange
    exact ⟨(le_max_left _ _).trans hrange.1, (le_max_right _ _).trans hrange.1, hrange.2⟩
  · obtain ⟨hfound, hrange⟩ := Option.filter_eq_some_iff.mp h
    rw [decide_eq_true_eq] at hrange
    refine ⟨hjustified k start (List.mem_of_getElem? hfound), ?_, hrange⟩
    refine le_searchFrom (ctx.justified k) lastStateAt 0 _ (Nat.zero_le _) (fun t ht => ?_) start hfound
    rw [List.getElem?_eq_none le_rfl] at ht
    cases ht

/-! ## The replay -/

/-- The estimates of a replay until an instant, and its open episode. -/
structure Bounded (ctx : ReplayContext) (time : Int) (r : Replay) : Prop where
  estimates : Estimates ctx.created (min time ctx.horizon) r.intervals
  opened : ∀ entry, r.openEpisode = some entry → ctx.created ≤ entry.start
  clear : Clear r

theorem Bounded.entered {r' : Replay} (h : Bounded ctx time r) (hrecovers : Recovers ctx r item r')
    (hjustified : ∀ k, ∀ t ∈ ctx.justified k, ctx.created ≤ t) (htime : time ≤ item.time)
    (hitem : ctx.created ≤ item.time) (entered : TicketStatus) :
    Bounded ctx item.time (enter ctx r' item.time entered) ∧
      (Disjoint (enter ctx r' item.time entered).intervals ↔ Disjoint r.intervals ∧ Clear r') := by
  have hlimit : min time ctx.horizon ≤ min item.time ctx.horizon := min_le_min_right _ htime
  have hestimates : Estimates ctx.created (min item.time ctx.horizon) r'.intervals := by
    rw [hrecovers.intervals]
    exact h.estimates.mono hlimit
  have hopened : ∀ entry, r'.openEpisode = some entry → ctx.created ≤ entry.start := by
    intro entry hentry
    rcases hrecovers.opened entry hentry with hold | ⟨k, hrecovered⟩
    · exact h.opened entry hold
    · exact (recoverStart_eq_some hjustified hrecovered).1
  have hemitted : Estimates ctx.created (min item.time ctx.horizon) (enter ctx r' item.time entered).intervals ∧
      (Disjoint (enter ctx r' item.time entered).intervals ↔ Disjoint r'.intervals ∧ Clear r') := by
    unfold enter
    dsimp only
    split
    · rename_i entry hentry
      refine ⟨estimates_emit hestimates (hopened entry hentry) le_rfl, ?_⟩
      rw [disjoint_emit hestimates (hopened entry hentry)]
      refine and_congr_right fun _ => ⟨fun hends other hother => ?_, fun hclear => hclear entry hentry⟩
      rw [hentry] at hother
      cases hother
      exact hends
    · rename_i hnone
      refine ⟨hestimates, (and_iff_left fun entry hentry => ?_).symm⟩
      rw [hnone] at hentry
      cases hentry
  rw [hrecovers.intervals] at hemitted
  refine ⟨⟨hemitted.1, fun entry hentry => ?_, fun entry hentry => ?_⟩, hemitted.2⟩
  · obtain ⟨k, -, rfl⟩ := Option.map_eq_some_iff.mp hentry
    exact hitem
  · obtain ⟨k, -, rfl⟩ := Option.map_eq_some_iff.mp hentry
    exact hemitted.1.endsBy.mono (min_le_left _ _)

/-- A record is replayed: its interval is apart from the others if and only if the start it recovers is clear. -/
theorem Bounded.replayed (h : Bounded ctx time r) (hjustified : ∀ k, ∀ t ∈ ctx.justified k, ctx.created ≤ t)
    (htime : time ≤ item.time) (hitem : ctx.created ≤ item.time) :
    Bounded ctx item.time (replayItem ctx r item) ∧ (Disjoint (replayItem ctx r item).intervals ↔
      Disjoint r.intervals ∧ (Replays r item → Clear (adopted ctx r item))) := by
  rcases replayItem_cases ctx r item with ⟨hreplays, entered, heq⟩ | ⟨hreplays, hintervals, hopen⟩
  · rw [heq]
    obtain ⟨hbounded, hdisjoint⟩ := h.entered (recovers_adopted ctx r item) hjustified htime hitem entered
    refine ⟨hbounded, hdisjoint.trans (and_congr_right fun _ => ?_)⟩
    exact ⟨fun hclear _ => hclear, fun hclear => hclear hreplays⟩
  · have hkept : ∀ entry, (replayItem ctx r item).openEpisode = some entry → r.openEpisode = some entry := by
      intro entry hentry
      rcases hopen with hopen | hopen
      · rwa [hopen] at hentry
      · rw [hopen] at hentry
        cases hentry
    refine ⟨⟨?_, fun entry hentry => h.opened entry (hkept entry hentry), fun entry hentry => ?_⟩, ?_⟩
    · rw [hintervals]
      exact h.estimates.mono (min_le_min_right _ htime)
    · rw [hintervals]
      exact h.clear entry (hkept entry hentry)
    · rw [hintervals]
      exact (and_iff_left fun hreplays' => absurd hreplays' hreplays).symm

/-- After the horizon nothing is open, and what is emitted last is apart from the others. -/
theorem Bounded.replayedPast (h : Bounded ctx time r) (item : TimedEvidence) :
    Bounded ctx ctx.horizon (replayPast ctx r item) ∧ (Disjoint (replayPast ctx r item).intervals ↔ Disjoint r.intervals) := by
  have hestimates : Estimates ctx.created ctx.horizon r.intervals := h.estimates.mono (min_le_right _ _)
  have hdone : ∀ {intervals : List ReportInterruptionInterval} {r' : Replay}, r'.intervals = intervals →
      Estimates ctx.created ctx.horizon intervals → r'.openEpisode = none → Bounded ctx ctx.horizon r' := by
    rintro _ r' rfl hestimates hnone
    refine ⟨by rwa [min_self], fun entry hentry => ?_, fun entry hentry => ?_⟩
    · rw [hnone] at hentry
      cases hentry
    · rw [hnone] at hentry
      cases hentry
  unfold replayPast
  split
  · rename_i hnone
    exact ⟨hdone rfl hestimates hnone, Iff.rfl⟩
  · rename_i entry hentry
    have hopened := h.opened entry hentry
    have hends := h.clear entry hentry
    split_ifs
    · exact ⟨hdone rfl (estimates_emit hestimates hopened (min_le_right _ _)) rfl,
        disjoint_emit_of_endsBy hestimates hends item.time⟩
    · exact ⟨hdone rfl (estimates_emit hestimates hopened (min_le_right _ _)) rfl,
        disjoint_emit_of_endsBy hestimates hends ctx.horizon⟩
    · exact ⟨hdone rfl hestimates rfl, Iff.rfl⟩

/-- No record recovers a start from before the end of an interval that is emitted already. -/
def RecoversClear (ctx : ReplayContext) : Replay → List TimedEvidence → Prop
  | _, [] => True
  | r, item :: rest => item.time ≤ ctx.horizon →
    (Replays r item → Clear (adopted ctx r item)) ∧ RecoversClear ctx (replayItem ctx r item) rest

/-- A replay of records in time order. -/
theorem disjoint_replay (hjustified : ∀ k, ∀ t ∈ ctx.justified k, ctx.created ≤ t) :
    ∀ (items : List TimedEvidence) {time : Int} {r : Replay}, Bounded ctx time r → (∀ item ∈ items, time ≤ item.time) →
      (∀ item ∈ items, ctx.created ≤ item.time) → items.Pairwise (fun a b => a.time ≤ b.time) →
      (∃ last, Bounded ctx last (replay ctx r items)) ∧
        (Disjoint (replay ctx r items).intervals ↔ Disjoint r.intervals ∧ RecoversClear ctx r items)
  | [], time, r, h, _, _, _ => ⟨⟨time, h⟩, (and_iff_left trivial).symm⟩
  | item :: rest, time, r, h, htimes, hcreated, hsorted => by
    obtain ⟨hfirst, hrest⟩ := List.pairwise_cons.mp hsorted
    unfold replay RecoversClear
    split_ifs with hpast
    · obtain ⟨hbounded, hdisjoint⟩ := h.replayedPast item
      refine ⟨⟨_, hbounded⟩, hdisjoint.trans (and_iff_left fun hle => ?_).symm⟩
      omega
    · obtain ⟨hbounded, hdisjoint⟩ := h.replayed hjustified (htimes item List.mem_cons_self)
        (hcreated item List.mem_cons_self)
      obtain ⟨hlast, hiff⟩ := disjoint_replay hjustified rest hbounded hfirst
        (fun other hother => hcreated other (List.mem_cons_of_mem _ hother)) hrest
      refine ⟨hlast, hiff.trans ?_⟩
      rw [hdisjoint, and_assoc]
      exact and_congr_right fun _ => ⟨fun hclear _ => hclear, fun hclear => hclear (not_lt.mp hpast)⟩

end ComplianceHub.Interruption
