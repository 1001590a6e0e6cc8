import ComplianceHub.Interruption.WellFormed

/-!
# Corroborating copies of one record

The audit log may hold a copy of a recorded transition. `coalesce` drops one of the two.

* `IsAuditCopy` : a copy of a record in the audit log;
* `coalesce_after_copy`, `absorbed_by_copy` : a copy that is kept absorbs what repeats it among the next eight records;
* `replay_congr` : a replay reads neither the source nor the id of a record;
* `Corroborates` : the copy changes nothing in a projection, and costs it no other record;
* `audit_copy_corroborates_iff` : when it does so.
-/

namespace ComplianceHub.Interruption

/-- A copy of a transition record from the audit log, without a saved pause timestamp. -/
structure IsAuditCopy (record copy : HistoricalInterruptionEvidence) : Prop where
  source : copy.source = .audit
  type : copy.type = .transition
  at' : copy.at' = record.at'
  fromField : copy.fromField = record.fromField
  toField : copy.toField = record.toField
  pausedAt : copy.pausedAt = none

/-- A transition between the same two statuses, at most five seconds away. -/
structure Repeats (record : HistoricalInterruptionEvidence) (time : Int) (e : TimedEvidence) : Prop where
  type : e.type = .transition
  fromField : e.fromField = record.fromField
  toField : e.toField = record.toField
  near : (e.time - time).natAbs ≤ 5000

theorem IsAuditCopy.repeats_iff {record copy : HistoricalInterruptionEvidence} (h : IsAuditCopy record copy) {time : Int}
    {e : TimedEvidence} : Repeats copy time e ↔ Repeats record time e := by
  constructor
  · rintro ⟨htype, hfrom, hto, hnear⟩
    exact ⟨htype, hfrom.trans h.fromField, hto.trans h.toField, hnear⟩
  · rintro ⟨htype, hfrom, hto, hnear⟩
    exact ⟨htype, hfrom.trans h.fromField.symm, hto.trans h.toField.symm, hnear⟩

variable {localeCompare : String → String → Ordering} {ticket : ReportTicket}
  {evidence evidence' : List HistoricalInterruptionEvidence} {record copy : HistoricalInterruptionEvidence}
  {start now time created : Int} {item : TimedEvidence} {ctx : ReplayContext} {r : Replay}

/-! ## Coalescing with one copy -/

section Coalesce

theorem isCopy_iff {transitions : List TimedEvidence} : isCopy transitions item = true ↔
    item.type = .transition ∧ ∃ previous ∈ transitions.drop (transitions.length - 8),
      previous.source ≠ item.source ∧ Repeats item.toHistoricalInterruptionEvidence item.time previous := by
  simp only [isCopy, Bool.and_eq_true, decide_eq_true_eq, List.any_eq_true]
  constructor
  · rintro ⟨htype, previous, hmem, ⟨⟨⟨hsame, hsource⟩, hfrom⟩, hto⟩, hnear⟩
    exact ⟨htype, previous, hmem, hsource, hsame.trans htype, hfrom, hto, hnear⟩
  · rintro ⟨htype, previous, hmem, hsource, hsame, hfrom, hto, hnear⟩
    exact ⟨htype, previous, hmem, ⟨⟨⟨hsame.trans htype.symm, hsource⟩, hfrom⟩, hto⟩, hnear⟩

/-- Among events only the copy can absorb an event, and only while it is one of the last eight. -/
theorem isCopy_after_copy {before mid : List TimedEvidence} {kept : TimedEvidence} (hkept : kept.source = .audit)
    (hbefore : ∀ e ∈ before, e.source = .event) (hmid : ∀ e ∈ mid, e.source = .event) (hitem : item.source = .event) :
    isCopy (before ++ kept :: mid) item = true ↔ mid.length < 8 ∧ kept.type = .transition ∧
      Repeats kept.toHistoricalInterruptionEvidence kept.time item := by
  have hlen : (before ++ kept :: mid).length - 8 - before.length = mid.length + 1 - 8 := by
    rw [List.length_append, List.length_cons]
    omega
  rw [isCopy_iff, List.drop_append, hlen]
  constructor
  · rintro ⟨htype, previous, hmem, hsource, hrepeats⟩
    have hother : previous ∉ before ∧ previous ∉ mid :=
      ⟨fun h => hsource ((hbefore _ h).trans hitem.symm), fun h => hsource ((hmid _ h).trans hitem.symm)⟩
    replace hmem := (List.mem_append.mp hmem).resolve_left fun h => hother.1 (List.mem_of_mem_drop h)
    have hlast : mid.length < 8 := by
      by_contra hle
      obtain ⟨n, hn⟩ : ∃ n, mid.length + 1 - 8 = n + 1 := ⟨mid.length - 8, by omega⟩
      rw [hn, List.drop_succ_cons] at hmem
      exact hother.2 (List.mem_of_mem_drop hmem)
    rw [show mid.length + 1 - 8 = 0 by omega, List.drop_zero] at hmem
    obtain rfl : previous = kept := (List.mem_cons.mp hmem).resolve_right hother.2
    exact ⟨hlast, hrepeats.type, htype, hrepeats.fromField.symm, hrepeats.toField.symm, by
      have := hrepeats.near
      omega⟩
  · rintro ⟨hlast, htype, hrepeats⟩
    refine ⟨hrepeats.type, kept, List.mem_append_right _ ?_, ?_, htype, hrepeats.fromField.symm, hrepeats.toField.symm, ?_⟩
    · rw [show mid.length + 1 - 8 = 0 by omega, List.drop_zero]
      exact List.mem_cons_self
    · rw [hkept, hitem]
      decide
    · have := hrepeats.near
      omega

/-- A kept copy absorbs no event exactly when none of the next eight repeats it. -/
theorem coalesce_after_copy {before : List TimedEvidence} {kept : TimedEvidence} (hkept : kept.source = .audit)
    (htype : kept.type = .transition) (hbefore : ∀ e ∈ before, e.source = .event) :
    ∀ (rest mid : List TimedEvidence), (∀ e ∈ mid, e.source = .event) → (∀ e ∈ rest, e.source = .event) →
      (∀ e ∈ rest.take (8 - mid.length), ¬ Repeats kept.toHistoricalInterruptionEvidence kept.time e) →
      coalesce (before ++ kept :: mid) rest = before ++ kept :: (mid ++ rest)
  | [], mid, _, _, _ => by rw [coalesce, List.append_nil]
  | item :: rest, mid, hmid, hrest, hnone => by
    have hitem := hrest item List.mem_cons_self
    have hcopy : isCopy (before ++ kept :: mid) item = false := by
      rw [← Bool.not_eq_true, isCopy_after_copy hkept hbefore hmid hitem]
      rintro ⟨hlast, -, hrepeats⟩
      refine hnone item ?_ hrepeats
      obtain ⟨n, hn⟩ : ∃ n, 8 - mid.length = n + 1 := ⟨7 - mid.length, by omega⟩
      rw [hn, List.take_succ_cons]
      exact List.mem_cons_self
    rw [coalesce, hcopy, if_neg Bool.false_ne_true, List.append_assoc, List.cons_append,
      coalesce_after_copy hkept htype hbefore rest (mid ++ [item]) (fun e he => ?_)
        (fun e he => hrest e (List.mem_cons_of_mem _ he)) fun e he => ?_]
    · rw [List.append_assoc, List.singleton_append]
    · rcases List.mem_append.mp he with he | he
      · exact hmid e he
      · exact List.mem_singleton.mp he ▸ hitem
    · refine hnone e ?_
      rw [List.length_append, List.length_singleton] at he
      cases hn : 8 - mid.length with
      | zero =>
        rw [show 8 - (mid.length + 1) = 0 by omega] at he
        cases he
      | succ n =>
        rw [show 8 - (mid.length + 1) = n by omega] at he
        rw [List.take_succ_cons]
        exact List.mem_cons_of_mem _ he

/-- It absorbs the first of the next eight that repeats it. -/
theorem absorbed_by_copy {before : List TimedEvidence} {kept : TimedEvidence} (hkept : kept.source = .audit)
    (htype : kept.type = .transition) (hbefore : ∀ e ∈ before, e.source = .event) :
    ∀ (rest mid : List TimedEvidence), (∀ e ∈ mid, e.source = .event) → (∀ e ∈ rest, e.source = .event) →
      (before ++ (mid ++ rest)).Nodup →
      (∃ e ∈ rest.take (8 - mid.length), Repeats kept.toHistoricalInterruptionEvidence kept.time e) →
      ∃ e ∈ rest, e ∉ coalesce (before ++ kept :: mid) rest
  | [], _, _, _, _, ⟨_, he, _⟩ => by
    rw [List.take_nil] at he
    cases he
  | item :: rest, mid, hmid, hrest, hnodup, ⟨e, he, hrepeats⟩ => by
    have hitem := hrest item List.mem_cons_self
    have hlast : mid.length < 8 := by
      by_contra hle
      rw [show 8 - mid.length = 0 by omega, List.take_zero] at he
      cases he
    by_cases hcopy : isCopy (before ++ kept :: mid) item = true
    · refine ⟨item, List.mem_cons_self, fun hmem => ?_⟩
      rw [coalesce, if_pos hcopy] at hmem
      rw [← List.append_assoc, List.nodup_append'] at hnodup
      obtain ⟨-, hrestNodup, hdisjoint⟩ := hnodup
      rcases List.mem_append.mp ((coalesce_sublist rest _).subset hmem) with hmem | hmem
      · rcases List.mem_append.mp hmem with hmem | hmem
        · exact hdisjoint (List.mem_append_left _ hmem) List.mem_cons_self
        · rcases List.mem_cons.mp hmem with rfl | hmem
          · rw [hkept] at hitem
            cases hitem
          · exact hdisjoint (List.mem_append_right _ hmem) List.mem_cons_self
      · exact (List.nodup_cons.mp hrestNodup).1 hmem
    · have hlater : ∃ e ∈ rest.take (8 - (mid ++ [item]).length),
          Repeats kept.toHistoricalInterruptionEvidence kept.time e := by
        obtain ⟨n, hn⟩ : ∃ n, 8 - mid.length = n + 1 := ⟨7 - mid.length, by omega⟩
        rw [hn, List.take_succ_cons] at he
        rw [List.length_append, List.length_singleton, show 8 - (mid.length + 1) = n by omega]
        rcases List.mem_cons.mp he with rfl | he
        · exact absurd ((isCopy_after_copy hkept hbefore hmid hitem).mpr ⟨hlast, htype, hrepeats⟩) hcopy
        · exact ⟨e, he, hrepeats⟩
      obtain ⟨e, he, hnot⟩ := absorbed_by_copy hkept htype hbefore rest (mid ++ [item])
        (fun e he => (List.mem_append.mp he).elim (hmid e) fun he => List.mem_singleton.mp he ▸ hitem)
        (fun e he => hrest e (List.mem_cons_of_mem _ he))
        (by rw [List.append_assoc, List.singleton_append]; exact hnodup) hlater
      refine ⟨e, List.mem_cons_of_mem _ he, ?_⟩
      rwa [coalesce, if_neg hcopy, List.append_assoc, List.cons_append]

theorem coalesce_append (transitions : List TimedEvidence) :
    ∀ items rest, coalesce transitions (items ++ rest) = coalesce (coalesce transitions items) rest := by
  intro items rest
  induction items generalizing transitions with
  | nil => rfl
  | cons item items ih =>
    rw [List.cons_append, coalesce, coalesce]
    exact ih _

/-- A copy right before its record: either it goes, or the record does. -/
theorem coalesce_with_copy {earlier later : List TimedEvidence} {kept own : TimedEvidence}
    (hkept : kept.source = .audit) (htype : kept.type = .transition) (hearlier : ∀ e ∈ earlier, e.source = .event)
    (hown : own.source = .event) (hlater : ∀ e ∈ later, e.source = .event)
    (hrepeats : Repeats kept.toHistoricalInterruptionEvidence kept.time own) :
    coalesce [] (earlier ++ kept :: own :: later) =
      if isCopy earlier kept then earlier ++ own :: later else coalesce (earlier ++ [kept]) later := by
  have hfirst : coalesce [] earlier = earlier :=
    coalesce_of_source .event earlier [] (fun e he _ => hearlier e he) fun _ he => (List.not_mem_nil he).elim
  rw [coalesce_append, hfirst, coalesce]
  by_cases hcopy : isCopy earlier kept = true
  · rw [if_pos hcopy, if_pos hcopy]
    refine coalesce_of_source .event _ _ (fun e he _ => ?_) fun e he _ => hearlier e he
    rcases List.mem_cons.mp he with rfl | he
    · exact hown
    · exact hlater e he
  · have hgone : isCopy (earlier ++ kept :: []) own = true :=
      (isCopy_after_copy hkept hearlier (fun _ he => (List.not_mem_nil he).elim) hown).mpr
        ⟨by decide, htype, hrepeats⟩
    rw [if_neg hcopy, if_neg hcopy, coalesce, if_pos hgone]

end Coalesce

/-! ## The records of a projection -/

theorem timed_of_mem_validEvidence (h : item ∈ validEvidence created now evidence) :
    item.toHistoricalInterruptionEvidence ∈ evidence ∧ item.at' = some item.time := by
  obtain ⟨hmem, -⟩ := List.mem_filter.mp h
  obtain ⟨e, he, hitem⟩ := List.mem_filterMap.mp hmem
  obtain ⟨time, htime, rfl⟩ := Option.map_eq_some_iff.mp hitem
  exact ⟨he, htime⟩

theorem validEvidence_pairwise (h : evidence.Pairwise fun a b => ∀ t, a.at' = some t → b.at' ≠ some t) :
    (validEvidence created now evidence).Pairwise fun a b => a.time ≠ b.time := by
  refine List.Pairwise.filter _ (List.pairwise_filterMap.mpr (h.imp fun {a b} hne x hx y hy htime => ?_))
  obtain ⟨s, hs, rfl⟩ := Option.map_eq_some_iff.mp hx
  obtain ⟨t, ht, rfl⟩ := Option.map_eq_some_iff.mp hy
  exact hne s hs (ht.trans (congrArg some htime.symm))

/-- Records at distinct times are replayed in strict time order. -/
theorem sortEvidence_strict [Std.TransCmp localeCompare]
    (h : evidence.Pairwise fun a b => ∀ t, a.at' = some t → b.at' ≠ some t) :
    (sortEvidence localeCompare created now evidence).Pairwise fun a b => a.time < b.time := by
  have hne : (sortEvidence localeCompare created now evidence).Pairwise fun a b => a.time ≠ b.time :=
    ((List.mergeSort_perm (validEvidence created now evidence) _).pairwise_iff fun {a b} h => Ne.symm h).mpr
      (validEvidence_pairwise h)
  exact (sortEvidence_pairwise created now evidence).imp₂ (fun a b hle hne => lt_of_le_of_ne hle hne) hne

theorem validEvidence_copy (created now : Int) (htime : copy.at' = some time) (hperm : evidence'.Perm (copy :: evidence)) :
    (validEvidence created now evidence').Perm
      (if created ≤ time ∧ time ≤ now then { copy with time := time } :: validEvidence created now evidence
        else validEvidence created now evidence) := by
  have hsub := (hperm.filterMap fun item => item.at'.map fun time => ({ item with time := time } : TimedEvidence)).filter
    fun item => created ≤ item.time ∧ item.time ≤ now
  rw [List.filterMap_cons, htime, Option.map_some, List.filter_cons] at hsub
  simpa [validEvidence] using hsub

/-- Where the copy of a record comes to stand: right before it. -/
theorem sortEvidence_with_copy (localeCompare : String → String → Ordering) [Std.TransCmp localeCompare]
    (created now : Int) (hevents : ∀ e ∈ evidence, e.source = .event)
    (htimes : evidence.Pairwise fun a b => ∀ t, a.at' = some t → b.at' ≠ some t) (hrecord : record ∈ evidence)
    (htime : record.at' = some time) (hcopy : IsAuditCopy record copy) (hperm : evidence'.Perm (copy :: evidence))
    (hrange : created ≤ time ∧ time ≤ now) :
    ∃ before after, sortEvidence localeCompare created now evidence = before ++ { record with time := time } :: after ∧
      sortEvidence localeCompare created now evidence' =
        before ++ { copy with time := time } :: { record with time := time } :: after ∧
      (∀ e ∈ before, e.time < time) ∧ (∀ e ∈ after, time < e.time) := by
  have hstrict : (sortEvidence localeCompare created now evidence).Pairwise fun a b => a.time < b.time :=
    sortEvidence_strict htimes
  have hmem : ({ record with time := time } : TimedEvidence) ∈ sortEvidence localeCompare created now evidence := by
    refine List.mem_mergeSort.mpr (List.mem_filter.mpr ⟨?_, by simpa using hrange⟩)
    exact List.mem_filterMap.mpr ⟨record, hrecord, by rw [htime]; rfl⟩
  obtain ⟨before, after, hsplit⟩ := List.append_of_mem hmem
  have hsorted := hstrict
  rw [hsplit, List.pairwise_append] at hsorted
  obtain ⟨hbefore, hafter, hcross⟩ := hsorted
  obtain ⟨hlater, hafter⟩ := List.pairwise_cons.mp hafter
  have hearlier : ∀ e ∈ before, e.time < time := fun e he => hcross e he _ List.mem_cons_self
  refine ⟨before, after, hsplit, sortEvidence_eq_of_perm ?_ ?_, hearlier, hlater⟩
  · have hvalid := validEvidence_copy created now (hcopy.at'.trans htime) hperm
    rw [if_pos hrange] at hvalid
    have hown := (List.mergeSort_perm (validEvidence created now evidence)
      fun a b => (evidenceCompare localeCompare a b).isLE).symm
    change (validEvidence created now evidence).Perm (sortEvidence localeCompare created now evidence) at hown
    rw [hsplit] at hown
    exact hvalid.trans ((hown.cons _).trans List.perm_middle.symm)
  · have hfirst : evidenceCompare localeCompare { copy with time := time } { record with time := time } = .lt := by
      simp only [evidenceCompare, compareLex, compareOn, hcopy.source, hevents record hrecord, Std.ReflCmp.compare_self,
        Ordering.eq_then]
      rfl
    refine List.pairwise_append.mpr ⟨hbefore.imp evidenceCompare_of_time_lt, ?_, fun a ha b hb => ?_⟩
    · refine List.pairwise_cons.mpr ⟨fun e he => ?_, List.pairwise_cons.mpr
        ⟨fun e he => evidenceCompare_of_time_lt (hlater e he), hafter.imp evidenceCompare_of_time_lt⟩⟩
      rcases List.mem_cons.mp he with rfl | he
      · exact hfirst
      · exact evidenceCompare_of_time_lt (hlater e he)
    · refine evidenceCompare_of_time_lt ?_
      rcases List.mem_cons.mp hb with rfl | hb
      · exact hearlier a ha
      · exact hcross a ha b hb

/-- The copy of a record that is out of range is not read either. -/
theorem sortEvidence_of_copy_out_of_range [Std.TransCmp localeCompare]
    (htimes : evidence.Pairwise fun a b => ∀ t, a.at' = some t → b.at' ≠ some t) (hcopy : IsAuditCopy record copy)
    (hperm : evidence'.Perm (copy :: evidence))
    (hrange : ∀ time, record.at' = some time → ¬ (created ≤ time ∧ time ≤ now)) :
    sortEvidence localeCompare created now evidence' = sortEvidence localeCompare created now evidence := by
  refine sortEvidence_eq_of_perm ?_ ((sortEvidence_strict htimes).imp evidenceCompare_of_time_lt)
  have hsame : (validEvidence created now evidence').Perm (validEvidence created now evidence) := by
    cases htime : record.at' with
    | some time =>
      have hvalid := validEvidence_copy created now (hcopy.at'.trans htime) hperm
      rwa [if_neg (hrange time htime)] at hvalid
    | none =>
      have hsub := (hperm.filterMap fun item => item.at'.map fun time => ({ item with time := time } : TimedEvidence))
      rw [List.filterMap_cons, hcopy.at', htime, Option.map_none] at hsub
      exact hsub.filter _
  exact hsame.trans (List.mergeSort_perm _ _).symm

/-! ## Replaying a copy in place of its record -/

/-- What a replay reads of a record is the same. -/
structure ReadsAlike (a b : TimedEvidence) : Prop where
  type : a.type = b.type
  fromField : a.fromField = b.fromField
  toField : a.toField = b.toField
  pausedAt : a.pausedAt = b.pausedAt
  time : a.time = b.time

theorem ReadsAlike.refl (a : TimedEvidence) : ReadsAlike a a := ⟨rfl, rfl, rfl, rfl, rfl⟩

theorem replay_congr {items items' : List TimedEvidence} (h : List.Forall₂ ReadsAlike items items') (r : Replay) :
    replay ctx r items = replay ctx r items' := by
  induction h generalizing r with
  | nil => rfl
  | @cons a b _ _ hab _ ih =>
    have hpast : replayPast ctx r a = replayPast ctx r b := by
      unfold replayPast
      rw [hab.type, hab.fromField, hab.toField, hab.time]
    have hitem : replayItem ctx r a = replayItem ctx r b := by
      unfold replayItem adoptFrom
      rw [hab.type, hab.fromField, hab.toField, hab.time, hab.pausedAt]
    rw [replay, replay, hab.time, hpast, hitem, ih]

/-! ## When a copy corroborates its record -/

section
variable (localeCompare ticket evidence evidence' record start now)

/-- With the copy the projection is the same, and no record but the copied one is absorbed. -/
structure Corroborates : Prop where
  intervals : (reconstructReportInterruptions localeCompare ticket evidence' start now).intervals =
    (reconstructReportInterruptions localeCompare ticket evidence start now).intervals
  unresolved : (reconstructReportInterruptions localeCompare ticket evidence' start now).unresolved =
    (reconstructReportInterruptions localeCompare ticket evidence start now).unresolved
  complete : (reconstructReportInterruptions localeCompare ticket evidence' start now).complete =
    (reconstructReportInterruptions localeCompare ticket evidence start now).complete
  distinct : hasRecordedMonthlyHistory ticket.interruptionHistory start = false →
    ∀ item ∈ transitionsOf localeCompare ticket evidence now, item.toHistoricalInterruptionEvidence ≠ record →
      item ∈ transitionsOf localeCompare ticket evidence' now

/-- The records that are coalesced, in replay order. -/
def recordsOf : List TimedEvidence :=
  (sortEvidence localeCompare ticket.createdAt now evidence).filter fun item => item.type ≠ .justification

/-- One of the last eight records before the copied one repeats it, or none of the next eight does. -/
def CopyIsAbsorbed : Prop :=
  ∀ time, record.at' = some time → ticket.createdAt ≤ time → time ≤ now →
    let earlier := (recordsOf localeCompare ticket evidence now).filter fun e => e.time < time
    let later := (recordsOf localeCompare ticket evidence now).filter fun e => time < e.time
    (∃ e ∈ earlier.drop (earlier.length - 8), Repeats record time e) ∨ ∀ e ∈ later.take 8, ¬ Repeats record time e

end

theorem reconstruct_congr
    (hcontext : contextOf localeCompare ticket evidence' now = contextOf localeCompare ticket evidence now)
    (hreplay : replay (contextOf localeCompare ticket evidence now) { lastStateAt := ticket.createdAt }
        (transitionsOf localeCompare ticket evidence' now) =
      replay (contextOf localeCompare ticket evidence now) { lastStateAt := ticket.createdAt }
        (transitionsOf localeCompare ticket evidence now)) :
    reconstructReportInterruptions localeCompare ticket evidence' start now =
      reconstructReportInterruptions localeCompare ticket evidence start now := by
  unfold contextOf horizonOf at hcontext
  unfold contextOf horizonOf transitionsOf at hreplay
  unfold reconstructReportInterruptions
  dsimp only
  by_cases hrecorded : hasRecordedMonthlyHistory (usableInterruptionHistory ticket.interruptionHistory) start = true
  · rw [if_pos hrecorded, if_pos hrecorded]
  · rw [if_neg hrecorded, if_neg hrecorded, hcontext, hreplay]

/-- A copy that absorbs its record and nothing else is read in its place. -/
theorem corroborates_of_replaced {before after : List TimedEvidence}
    (hcontext : contextOf localeCompare ticket evidence' now = contextOf localeCompare ticket evidence now)
    (hold : transitionsOf localeCompare ticket evidence now = before ++ { record with time := time } :: after)
    (hnew : transitionsOf localeCompare ticket evidence' now = before ++ { copy with time := time } :: after)
    (hcopy : IsAuditCopy record copy) (htype : record.type = .transition) (hpaused : record.pausedAt = none) :
    Corroborates localeCompare ticket evidence evidence' record start now := by
  have halike : ReadsAlike { copy with time := time } { record with time := time } :=
    ⟨hcopy.type.trans htype.symm, hcopy.fromField, hcopy.toField, hcopy.pausedAt.trans hpaused.symm, rfl⟩
  have hsame : reconstructReportInterruptions localeCompare ticket evidence' start now =
      reconstructReportInterruptions localeCompare ticket evidence start now := by
    refine reconstruct_congr hcontext (replay_congr ?_ _)
    rw [hold, hnew]
    exact List.rel_append (List.forall₂_same.mpr fun e _ => .refl e) (.cons halike (List.forall₂_same.mpr fun e _ => .refl e))
  refine ⟨by rw [hsame], by rw [hsame], by rw [hsame], fun _ item hitem hne => ?_⟩
  rw [hold] at hitem
  rw [hnew]
  rcases List.mem_append.mp hitem with hitem | hitem
  · exact List.mem_append_left _ hitem
  · rcases List.mem_cons.mp hitem with rfl | hitem
    · exact absurd rfl hne
    · exact List.mem_append_right _ (List.mem_cons_of_mem _ hitem)

theorem corroborates_of_same
    (hcontext : contextOf localeCompare ticket evidence' now = contextOf localeCompare ticket evidence now)
    (hsame : transitionsOf localeCompare ticket evidence' now = transitionsOf localeCompare ticket evidence now) :
    Corroborates localeCompare ticket evidence evidence' record start now := by
  have hreport : reconstructReportInterruptions localeCompare ticket evidence' start now =
      reconstructReportInterruptions localeCompare ticket evidence start now :=
    reconstruct_congr hcontext (by rw [hsame])
  exact ⟨by rw [hreport], by rw [hreport], by rw [hreport], fun _ item hitem _ => hsame ▸ hitem⟩

/-- A recorded history is reported without reading the records. -/
theorem corroborates_of_recorded (hrecorded : hasRecordedMonthlyHistory ticket.interruptionHistory start = true) :
    Corroborates localeCompare ticket evidence evidence' record start now := by
  have husable : hasRecordedMonthlyHistory (usableInterruptionHistory ticket.interruptionHistory) start = true := by
    rw [← hrecorded]
    unfold hasRecordedMonthlyHistory
    rw [usableInterruptionHistory_idem]
  have hreport : reconstructReportInterruptions localeCompare ticket evidence' start now =
      reconstructReportInterruptions localeCompare ticket evidence start now := by
    unfold reconstructReportInterruptions
    dsimp only
    rw [if_pos husable, if_pos husable]
  refine ⟨by rw [hreport], by rw [hreport], by rw [hreport], fun hno => ?_⟩
  rw [hrecorded] at hno
  cases hno

/-- A copy of a transition is no justification: both lists give one context. -/
theorem contextOf_with_copy {before after : List TimedEvidence} {kept own : TimedEvidence}
    (hold : sortEvidence localeCompare ticket.createdAt now evidence = before ++ own :: after)
    (hnew : sortEvidence localeCompare ticket.createdAt now evidence' = before ++ kept :: own :: after)
    (hkept : kept.type = .transition) :
    contextOf localeCompare ticket evidence' now = contextOf localeCompare ticket evidence now := by
  have hnone : ∀ k, decide (kept.type = .justification ∧ kept.toField.interruption = some k) = false := by
    intro k
    rw [hkept]
    exact decide_eq_false fun h => by cases h.1
  unfold contextOf replayContext
  rw [hold, hnew]
  congr 1
  funext k
  rw [List.filter_append, List.filter_append, List.filter_cons (x := kept), hnone k, if_neg Bool.false_ne_true]

theorem recordsOf_of_sort {before after : List TimedEvidence} {kept own : TimedEvidence}
    (hold : sortEvidence localeCompare ticket.createdAt now evidence = before ++ own :: after)
    (hnew : sortEvidence localeCompare ticket.createdAt now evidence' = before ++ kept :: own :: after)
    (hown : own.type = .transition) (hkept : kept.type = .transition) :
    recordsOf localeCompare ticket evidence now = (before.filter fun item => item.type ≠ .justification) ++
        own :: after.filter (fun item => item.type ≠ .justification) ∧
      recordsOf localeCompare ticket evidence' now = (before.filter fun item => item.type ≠ .justification) ++
        kept :: own :: after.filter fun item => item.type ≠ .justification := by
  unfold recordsOf
  rw [hold, hnew]
  constructor
  · simp [hown]
  · simp [hown, hkept]

theorem timed_of_mem_recordsOf (h : item ∈ recordsOf localeCompare ticket evidence now) :
    item.toHistoricalInterruptionEvidence ∈ evidence ∧ item.at' = some item.time :=
  timed_of_mem_validEvidence (List.mem_mergeSort.mp (List.mem_filter.mp h).1)

/-- Whether the copy is absorbed, or what it absorbs, on the records before and after the copied one. -/
theorem copyIsAbsorbed_iff {earlier later : List TimedEvidence} {own : TimedEvidence} (htime : record.at' = some time)
    (hrange : ticket.createdAt ≤ time ∧ time ≤ now) (hown : own.time = time)
    (hrecords : recordsOf localeCompare ticket evidence now = earlier ++ own :: later)
    (hearlier : ∀ e ∈ earlier, e.time < time) (hlater : ∀ e ∈ later, time < e.time) :
    CopyIsAbsorbed localeCompare ticket evidence record now ↔
      (∃ e ∈ earlier.drop (earlier.length - 8), Repeats record time e) ∨ ∀ e ∈ later.take 8, ¬ Repeats record time e := by
  have hfirst : (recordsOf localeCompare ticket evidence now).filter (fun e => e.time < time) = earlier := by
    rw [hrecords, List.filter_append, List.filter_eq_self.mpr fun e he => decide_eq_true (hearlier e he),
      List.filter_eq_nil_iff.mpr, List.append_nil]
    intro e he
    rcases List.mem_cons.mp he with rfl | he
    · simp [hown]
    · simpa using (hlater e he).le
  have hlast : (recordsOf localeCompare ticket evidence now).filter (fun e => time < e.time) = later := by
    rw [hrecords, List.filter_append, List.filter_eq_nil_iff.mpr fun e he => by simpa using (hearlier e he).le,
      List.nil_append, List.filter_cons_of_neg (by simp [hown]),
      List.filter_eq_self.mpr fun e he => decide_eq_true (hlater e he)]
  unfold CopyIsAbsorbed
  constructor
  · intro h
    have habsorbed := h time htime hrange.1 hrange.2
    dsimp only at habsorbed
    rwa [hfirst, hlast] at habsorbed
  · intro h t ht _ _
    obtain rfl : time = t := Option.some_injective _ (htime.symm.trans ht)
    dsimp only
    rwa [hfirst, hlast]

/-- A copy corroborates its record exactly when it is itself absorbed, or absorbs nothing but the record. -/
theorem audit_copy_corroborates_iff (localeCompare : String → String → Ordering) [Std.TransCmp localeCompare]
    (ticket : ReportTicket) (evidence evidence' : List HistoricalInterruptionEvidence) (record copy : HistoricalInterruptionEvidence)
    (start now : Int) (hevents : ∀ e ∈ evidence, e.source = .event)
    (htimes : evidence.Pairwise fun a b => ∀ t, a.at' = some t → b.at' ≠ some t) (hrecord : record ∈ evidence)
    (htype : record.type = .transition) (hcopy : IsAuditCopy record copy) (hperm : evidence'.Perm (copy :: evidence)) :
    (Corroborates localeCompare ticket evidence evidence' record start now →
      hasRecordedMonthlyHistory ticket.interruptionHistory start = true ∨
        CopyIsAbsorbed localeCompare ticket evidence record now) ∧
    (hasRecordedMonthlyHistory ticket.interruptionHistory start = true ∨
        CopyIsAbsorbed localeCompare ticket evidence record now →
      record.pausedAt = none → Corroborates localeCompare ticket evidence evidence' record start now) := by
  by_cases hread : ∃ time, record.at' = some time ∧ ticket.createdAt ≤ time ∧ time ≤ now
  · obtain ⟨time, htime, hrange⟩ := hread
    obtain ⟨before, after, hold, hnew, hearlier, hlater⟩ :=
      sortEvidence_with_copy localeCompare ticket.createdAt now hevents htimes hrecord htime hcopy hperm hrange
    set own : TimedEvidence := { record with time := time }
    set kept : TimedEvidence := { copy with time := time }
    have hkept : kept.source = .audit := hcopy.source
    have hkeptType : kept.type = .transition := hcopy.type
    have hcontext := contextOf_with_copy hold hnew hkeptType
    obtain ⟨hrecords, hrecords'⟩ := recordsOf_of_sort hold hnew htype hkeptType
    set earlier := before.filter fun item => item.type ≠ .justification
    set later := after.filter fun item => item.type ≠ .justification
    have hearly : ∀ e ∈ earlier, e.time < time := fun e he => hearlier e (List.mem_filter.mp he).1
    have hlate : ∀ e ∈ later, time < e.time := fun e he => hlater e (List.mem_filter.mp he).1
    have habsorbed := copyIsAbsorbed_iff htime hrange rfl hrecords hearly hlate
    -- all records but the copy are events, at distinct times
    have hsource : ∀ e ∈ recordsOf localeCompare ticket evidence now, e.source = .event := fun e he =>
      hevents _ (timed_of_mem_recordsOf he).1
    have hstrict : (recordsOf localeCompare ticket evidence now).Pairwise fun a b => a.time < b.time :=
      (sortEvidence_strict htimes).filter _
    rw [hrecords] at hsource hstrict
    have hearlierSource : ∀ e ∈ earlier, e.source = .event := fun e he => hsource e (List.mem_append_left _ he)
    have hlaterSource : ∀ e ∈ later, e.source = .event := fun e he =>
      hsource e (List.mem_append_right _ (List.mem_cons_of_mem _ he))
    -- the transitions that are replayed, without and with the copy
    have htransitions : transitionsOf localeCompare ticket evidence now = earlier ++ own :: later := by
      change coalesce [] (recordsOf localeCompare ticket evidence now) = _
      rw [hrecords, coalesce_of_source .event _ [] (fun e he _ => hsource e he) fun _ he => (List.not_mem_nil he).elim]
      rfl
    have htransitions' : transitionsOf localeCompare ticket evidence' now =
        if isCopy earlier kept then earlier ++ own :: later else coalesce (earlier ++ [kept]) later := by
      rw [← coalesce_with_copy hkept hkeptType hearlierSource (hevents record hrecord) hlaterSource
        ⟨htype, hcopy.fromField.symm, hcopy.toField.symm, by simp [own, kept]⟩, ← hrecords']
      rfl
    have hcopied : isCopy earlier kept = true ↔ ∃ e ∈ earlier.drop (earlier.length - 8), Repeats record time e := by
      rw [isCopy_iff]
      constructor
      · rintro ⟨-, e, he, -, hrepeats⟩
        exact ⟨e, he, hcopy.repeats_iff.mp hrepeats⟩
      · rintro ⟨e, he, hrepeats⟩
        refine ⟨hkeptType, e, he, ?_, hcopy.repeats_iff.mpr hrepeats⟩
        rw [hearlierSource e (List.mem_of_mem_drop he), hkept]
        decide
    by_cases hc : isCopy earlier kept = true
    · -- the copy is absorbed by an earlier record
      rw [if_pos hc] at htransitions'
      exact ⟨fun _ => .inr (habsorbed.mpr (.inl (hcopied.mp hc))),
        fun _ _ => corroborates_of_same hcontext (htransitions'.trans htransitions.symm)⟩
    · -- the copy is kept and absorbs its record
      rw [if_neg hc] at htransitions'
      have hnodup : (earlier ++ later).Nodup := by
        have hne : (earlier ++ own :: later).Nodup := hstrict.imp fun {a b} hlt heq => hlt.ne (congrArg _ heq)
        exact hne.sublist (List.Sublist.append_left (List.sublist_cons_self _ _) _)
      constructor
      · intro hcorroborates
        by_contra hnot
        obtain ⟨hrecorded, hnot⟩ := not_or.mp hnot
        obtain ⟨-, hlost⟩ := not_or.mp (mt habsorbed.mpr hnot)
        have hlost : ∃ e ∈ later.take 8, Repeats kept.toHistoricalInterruptionEvidence kept.time e := by
          by_contra hnone
          exact hlost fun e he hrepeats => hnone ⟨e, he, hcopy.repeats_iff.mpr hrepeats⟩
        obtain ⟨e, he, hgone⟩ := absorbed_by_copy hkept hkeptType hearlierSource later []
          (fun _ h => (List.not_mem_nil h).elim) hlaterSource hnodup hlost
        have hother : e.toHistoricalInterruptionEvidence ≠ record := by
          rintro rfl
          have hat := (timed_of_mem_recordsOf (hrecords ▸ List.mem_append_right _ (List.mem_cons_of_mem _ he))).2
          exact (hlate e he).ne (Option.some_injective _ (htime.symm.trans hat))
        apply hgone
        rw [← htransitions']
        apply hcorroborates.distinct (Bool.eq_false_iff.mpr hrecorded) e ?_ hother
        rw [htransitions]
        exact List.mem_append_right _ (List.mem_cons_of_mem _ he)
      · intro hcond hpaused
        rcases hcond with hrecorded | hcond
        · exact corroborates_of_recorded hrecorded
        · have hnone := (habsorbed.mp hcond).resolve_left (mt hcopied.mpr hc)
          refine corroborates_of_replaced hcontext htransitions ?_ hcopy htype hpaused
          rw [htransitions']
          exact coalesce_after_copy hkept hkeptType hearlierSource later [] (fun _ h => (List.not_mem_nil h).elim)
            hlaterSource fun e he hrepeats => hnone e he (hcopy.repeats_iff.mp hrepeats)
  · have hsame : sortEvidence localeCompare ticket.createdAt now evidence' =
        sortEvidence localeCompare ticket.createdAt now evidence :=
      sortEvidence_of_copy_out_of_range htimes hcopy hperm fun time htime hrange => hread ⟨time, htime, hrange⟩
    refine ⟨fun _ => .inr fun time htime hcreated hnow => absurd ⟨time, htime, hcreated, hnow⟩ hread, fun _ _ => ?_⟩
    refine corroborates_of_same ?_ ?_
    · unfold contextOf
      rw [hsame]
    · unfold transitionsOf
      rw [hsame]

/-! ## Two concrete copies -/

/-- The audit copy of a change that the events record. -/
def auditCopy (id : String) (record : HistoricalInterruptionEvidence) : HistoricalInterruptionEvidence :=
  { record with id, source := .audit, pausedAt := none }

theorem isAuditCopy_auditCopy (id : String) (record : HistoricalInterruptionEvidence) (h : record.type = .transition) :
    IsAuditCopy record (auditCopy id record) := ⟨rfl, h, rfl, rfl, rfl, rfl⟩

/-- The copy of a pause that is not repeated within five seconds. -/
theorem copied_pause_corroborates :
    let changes : List StatusChange := [⟨"2", 500, .in_progress⟩, ⟨"3", 1000, .pause⟩, ⟨"4", 9000, .in_progress⟩]
    let evidence := createdOpen "1" 100 :: transitionRecords .open changes
    let paused := transitionRecord .in_progress ⟨"3", 1000, .pause⟩
    Corroborates digitsCompare { status := .in_progress, createdAt := 0 } evidence (auditCopy "9" paused :: evidence)
      paused 0 20000 := by
  intro changes evidence paused
  refine (audit_copy_corroborates_iff digitsCompare { status := .in_progress, createdAt := 0 } evidence
    _ paused (auditCopy "9" paused) 0 20000 (by decide) ?_ (by decide) rfl (isAuditCopy_auditCopy _ _ rfl) (.refl _)).2
    (.inr ?_) rfl
  · have hne : evidence.Pairwise fun a b => a.at' ≠ b.at' := by decide
    exact hne.imp fun h t ha hb => h (ha.trans hb.symm)
  · have hsort : sortEvidence digitsCompare 0 20000 evidence =
        evidence.map fun e => { e with time := e.at'.getD 0 } :=
      sortEvidence_eq_of_pairwise (by decide) (by decide) (by decide) (by decide)
    intro time htime _ _
    obtain rfl : 1000 = time := Option.some_injective _ htime
    refine .inr fun e he hrepeats => ?_
    have hlater : ∀ e ∈ ((recordsOf digitsCompare { status := .in_progress, createdAt := 0 } evidence 20000).filter
        fun e => 1000 < e.time).take 8, e.toField ≠ paused.toField := by
      unfold recordsOf
      rw [hsort]
      decide
    exact hlater e he hrepeats.toField

/-- Paused again two seconds later: the copy of the first pause absorbs the second, and its end has no start. -/
theorem second_pause_absorbed_by_copy :
    let changes : List StatusChange := [⟨"2", 500, .in_progress⟩, ⟨"3", 1000, .pause⟩, ⟨"4", 2000, .in_progress⟩,
      ⟨"5", 3000, .pause⟩, ⟨"6", 60000, .in_progress⟩]
    let ticket : ReportTicket := { status := .in_progress, createdAt := 0 }
    let evidence := createdOpen "1" 100 :: transitionRecords .open changes
    let paused := transitionRecord .in_progress ⟨"3", 1000, .pause⟩
    let evidence' := auditCopy "9" paused :: evidence
    (∀ e ∈ evidence, e.source = .event) ∧ paused ∈ evidence ∧ IsAuditCopy paused (auditCopy "9" paused) ∧
      (reconstructReportInterruptions digitsCompare ticket evidence 0 90000).intervals.map (·.startAt) =
        [some 1000, some 3000] ∧
      (reconstructReportInterruptions digitsCompare ticket evidence 0 90000).complete = true ∧
      (reconstructReportInterruptions digitsCompare ticket evidence' 0 90000).intervals.map (·.startAt) = [some 1000] ∧
      (reconstructReportInterruptions digitsCompare ticket evidence' 0 90000).complete = false := by
  intro changes ticket evidence paused evidence'
  have hsort : sortEvidence digitsCompare 0 90000 evidence = evidence.map fun e => { e with time := e.at'.getD 0 } :=
    sortEvidence_eq_of_pairwise (by decide) (by decide) (by decide) (by decide)
  have hsort' : sortEvidence digitsCompare 0 90000 evidence' =
      [createdOpen "1" 100, transitionRecord .open ⟨"2", 500, .in_progress⟩, auditCopy "9" paused, paused,
        transitionRecord .pause ⟨"4", 2000, .in_progress⟩, transitionRecord .in_progress ⟨"5", 3000, .pause⟩,
        transitionRecord .pause ⟨"6", 60000, .in_progress⟩].map fun e => { e with time := e.at'.getD 0 } :=
    sortEvidence_eq_of_pairwise (by decide) (by decide) (by decide) (by decide)
  have hestimates : estimatesOf digitsCompare ticket evidence 90000 =
      [emitted ⟨.pause, 1000⟩ 2000, emitted ⟨.pause, 3000⟩ 60000] := by
    unfold estimatesOf replayedOf contextOf transitionsOf
    simp only [ticket, hsort]
    decide
  have hestimates' : estimatesOf digitsCompare ticket evidence' 90000 = [emitted ⟨.pause, 1000⟩ 2000] := by
    unfold estimatesOf replayedOf contextOf transitionsOf
    simp only [ticket, hsort']
    decide
  refine ⟨by decide, by decide, isAuditCopy_auditCopy _ _ rfl, ?_, ?_, ?_, ?_⟩
  · rw [reconstruct_intervals_eq, filter_estimatesOf, hestimates, if_neg (by decide),
      List.mergeSort_of_pairwise (by decide)]
    decide
  · simp only [reconstructReportInterruptions, ticket, hsort]
    decide
  · rw [reconstruct_intervals_eq, filter_estimatesOf, hestimates', if_neg (by decide),
      List.mergeSort_of_pairwise (by decide)]
    decide
  · simp only [reconstructReportInterruptions, ticket, hsort']
    decide

end ComplianceHub.Interruption
