import ComplianceHub.Lib.OrderedMap
import ComplianceHub.Lib.Sort
import ComplianceHub.Tickets.Verdict

/-!
# The performance ranking

`ticket-performance.ts`: one row per assignee over the completed tickets of a period. Numbers are exact rationals; one
that is not finite is `none`.

* `scoreAssignees` : the statistics of each assignee and the sorted rows;
* `scoreAssignees_perm` : they do not depend on the order of the samples;
* `performance_ranking` : with the bounds of the scores and the order of the rows.
-/

namespace ComplianceHub.Tickets
open Lib (OrderedMap)

structure PerformanceSample where
  techId : Option Rat
  techName : String
  activeHours : Option Rat
  slaHours : Option Rat
  metSla : Option Bool
  timing : Option ResolutionTiming

/-- A sample that is not skipped. -/
structure AcceptedSample where
  techId : Nat
  techName : String
  activeHours : Rat
  slaHours : Rat
  metSla : Option Bool
  timing : Option ResolutionTiming

/-- A positive integer id, nonnegative active hours and positive SLA hours. -/
def PerformanceSample.accepted (sample : PerformanceSample) : Option AcceptedSample :=
  match sample.techId, sample.activeHours, sample.slaHours with
  | some techId, some activeHours, some slaHours =>
    if techId.isInt ∧ 0 < techId ∧ 0 ≤ activeHours ∧ 0 < slaHours then
      some { techId := techId.num.toNat, techName := sample.techName, activeHours, slaHours
             metSla := sample.metSla, timing := sample.timing }
    else none
  | _, _, _ => none

structure AssigneeStat where
  name : String
  count : Nat := 0
  met : Nat := 0
  hours : Rat := 0
  efficiency : Rat := 0
  elapsed : Rat := 0
  calendar : Rat := 0
  paused : Rat := 0
  pauses : Nat := 0
  unknownCount : Bool := false
  estimates : Nat := 0

def blankStat (sample : AcceptedSample) : AssigneeStat := { name := sample.techName }

def isMet (sample : AcceptedSample) : Bool := sample.metSla.getD (sample.activeHours ≤ sample.slaHours)

def efficiencyOf (sample : AcceptedSample) : Rat :=
  if sample.activeHours = 0 then 100 else min 100 (sample.slaHours / sample.activeHours * 100)

def addSample (stat : AssigneeStat) (sample : AcceptedSample) : AssigneeStat where
  name := stat.name
  count := stat.count + 1
  met := stat.met + if isMet sample then 1 else 0
  hours := stat.hours + sample.activeHours
  elapsed := stat.elapsed + (sample.timing.map ResolutionTiming.elapsedBusinessHours).getD sample.activeHours
  calendar := stat.calendar + (sample.timing.map ResolutionTiming.elapsedCalendarHours).getD sample.activeHours
  paused := stat.paused + (sample.timing.map ResolutionTiming.creditedPauseHours).getD 0
  pauses := stat.pauses + (sample.timing.bind ResolutionTiming.pauseCount).getD 0
  unknownCount := stat.unknownCount || (sample.timing.bind ResolutionTiming.pauseCount).isNone
  estimates := stat.estimates + if sample.timing.any ResolutionTiming.estimated then 1 else 0
  efficiency := stat.efficiency + efficiencyOf sample

structure AssigneePerformanceRow where
  techId : Nat
  techName : String
  resolvedTickets : Nat
  met : Nat
  missed : Int
  slaRate : Rat
  volumeScore : Rat
  efficiencyScore : Rat
  avgActiveResolutionHours : Rat
  avgBusinessResolutionHours : Rat
  avgCalendarResolutionHours : Rat
  avgCreditedPauseHours : Rat
  pauseCount : Option Nat
  estimatedTickets : Nat
  weightedScore : Rat

def round1 (value : Rat) : Rat := jsRound (value * 10) / 10

def round4 (value : Rat) : Rat := jsRound (value * 10000) / 10000

def maxVolume (stats : List (Nat × AssigneeStat)) : Nat := (stats.map fun entry => entry.2.count).foldl max 1

def performanceRow (maxVolume : Nat) (entry : Nat × AssigneeStat) : AssigneePerformanceRow :=
  let s := entry.2
  let sla : Rat := s.met / s.count * 100
  let volume : Rat := s.count / maxVolume * 100
  let efficiency := s.efficiency / s.count
  { techId := entry.1, techName := s.name, resolvedTickets := s.count, met := s.met, missed := s.count - s.met
    slaRate := round1 sla, volumeScore := round1 volume, efficiencyScore := round1 efficiency
    avgActiveResolutionHours := round4 (s.hours / s.count)
    avgBusinessResolutionHours := round4 (s.elapsed / s.count)
    avgCalendarResolutionHours := round4 (s.calendar / s.count)
    avgCreditedPauseHours := round4 (s.paused / s.count)
    pauseCount := if s.unknownCount then none else some s.pauses
    estimatedTickets := s.estimates
    weightedScore := round1 (sla * (1 / 2) + volume * (3 / 10) + efficiency * (1 / 5)) }

/-- Higher score first, then more tickets, a higher SLA rate, fewer active hours and the smaller id. -/
def rowCompare : AssigneePerformanceRow → AssigneePerformanceRow → Ordering :=
  compareLex (compareOn fun row => -row.weightedScore)
    (compareLex (compareOn fun row => -(row.resolvedTickets : Int))
      (compareLex (compareOn fun row => -row.slaRate)
        (compareLex (compareOn AssigneePerformanceRow.avgActiveResolutionHours)
          (compareOn AssigneePerformanceRow.techId))))

def statsOf (samples : List PerformanceSample) : List (Nat × AssigneeStat) :=
  (OrderedMap.collect AcceptedSample.techId blankStat addSample (samples.filterMap PerformanceSample.accepted)).entries

def rowsOf (stats : List (Nat × AssigneeStat)) : List AssigneePerformanceRow :=
  stats.map (performanceRow (maxVolume stats))

def scoreAssignees (samples : List PerformanceSample) : List AssigneePerformanceRow :=
  (rowsOf (statsOf samples)).mergeSort fun a b => (rowCompare a b).isLE

instance : Std.TransCmp rowCompare := by
  unfold rowCompare
  infer_instance

/-! ## The order of the samples -/

variable {samples samples' : List PerformanceSample} {row : AssigneePerformanceRow}

/-- One assignee has one name in all samples. -/
def OneName (samples : List PerformanceSample) : Prop :=
  ∀ a ∈ samples, ∀ b ∈ samples, a.techId = b.techId → a.techName = b.techName

theorem addSample_comm (stat : AssigneeStat) (a b : AcceptedSample) :
    addSample (addSample stat a) b = addSample (addSample stat b) a := by
  simp only [addSample, AssigneeStat.mk.injEq, true_and]
  refine ⟨add_right_comm _ _ _, add_right_comm _ _ _, add_right_comm _ _ _, add_right_comm _ _ _, add_right_comm _ _ _,
    add_right_comm _ _ _, add_right_comm _ _ _, Bool.or_right_comm _ _ _, add_right_comm _ _ _⟩

theorem accepted_eq_some {sample : PerformanceSample} {a : AcceptedSample} (h : sample.accepted = some a) :
    sample.techId = some (a.techId : Rat) ∧ sample.techName = a.techName ∧ 0 ≤ a.activeHours ∧ 0 < a.slaHours := by
  unfold PerformanceSample.accepted at h
  split at h
  · rename_i techId activeHours slaHours htech hactive hsla
    split_ifs at h with hvalid
    obtain ⟨hint, hpos, hnonneg, hslaPos⟩ := hvalid
    obtain rfl := Option.some_injective _ h
    have hnum : ((techId.num.toNat : Nat) : Rat) = techId := by
      have hden : ((techId.num : Int) : Rat) = techId := (Rat.den_eq_one_iff techId).mp (by simpa [Rat.isInt] using hint)
      have hcast : ((techId.num.toNat : Nat) : Int) = techId.num := Int.toNat_of_nonneg (Rat.num_pos.mpr hpos).le
      rw [← Int.cast_natCast, hcast, hden]
    exact ⟨htech.trans (congrArg some hnum.symm), rfl, hnonneg, hslaPos⟩
  · cases h

theorem statsOf_perm (h : samples.Perm samples') (hname : OneName samples) : (statsOf samples).Perm (statsOf samples') := by
  refine OrderedMap.collect_perm (h.filterMap _) fun a ha b hb hkey => ⟨?_, fun stat => addSample_comm stat a b⟩
  obtain ⟨x, hx, hxa⟩ := List.mem_filterMap.mp ha
  obtain ⟨y, hy, hyb⟩ := List.mem_filterMap.mp hb
  obtain ⟨hxid, hxname, -⟩ := accepted_eq_some hxa
  obtain ⟨hyid, hyname, -⟩ := accepted_eq_some hyb
  have hsame := hname x hx y hy (by rw [hxid, hyid, hkey])
  rw [blankStat, blankStat, ← hxname, ← hyname, hsame]

theorem maxVolume_perm {stats stats' : List (Nat × AssigneeStat)} (h : stats.Perm stats') :
    maxVolume stats = maxVolume stats' :=
  (h.map _).foldl_eq' (fun _ _ _ _ _ => max_right_comm _ _ _) 1

theorem rowsOf_perm {stats stats' : List (Nat × AssigneeStat)} (h : stats.Perm stats') :
    (rowsOf stats).Perm (rowsOf stats') := by
  unfold rowsOf
  rw [maxVolume_perm h]
  exact h.map _

theorem techId_of_rowCompare {a b : AssigneePerformanceRow} (h : rowCompare a b = .eq) : a.techId = b.techId := by
  simp only [rowCompare, compareLex, Ordering.then_eq_eq, compareOn, Std.LawfulEqCmp.compare_eq_iff_eq] at h
  exact h.2.2.2.2

/-- Rows of different assignees are no tie. -/
theorem rowsOf_ne (samples : List PerformanceSample) :
    (rowsOf (statsOf samples)).Pairwise fun a b => rowCompare a b ≠ .eq := by
  refine List.pairwise_map.mpr ((List.pairwise_map.mp (OrderedMap.nodup _)).imp fun {a b} hne heq => hne ?_)
  exact techId_of_rowCompare heq

theorem scoreAssignees_perm (h : samples.Perm samples') (hname : OneName samples) :
    scoreAssignees samples = scoreAssignees samples' :=
  Lib.mergeSort_congr (rowsOf_perm (statsOf_perm h hname)) (rowsOf_ne samples')

/-! ## Scores in range -/

/-- What the statistics of an assignee with accepted samples satisfy. -/
structure AssigneeStat.Sound (s : AssigneeStat) : Prop where
  counted : 0 < s.count
  met_le : s.met ≤ s.count
  nonneg : 0 ≤ s.efficiency
  le : s.efficiency ≤ 100 * s.count

theorem efficiencyOf_range {sample : AcceptedSample} (hactive : 0 ≤ sample.activeHours) (hsla : 0 < sample.slaHours) :
    0 ≤ efficiencyOf sample ∧ efficiencyOf sample ≤ 100 := by
  unfold efficiencyOf
  split_ifs with h
  · norm_num
  · exact ⟨le_min (by norm_num) (mul_nonneg (div_nonneg hsla.le hactive) (by norm_num)), min_le_left _ _⟩

theorem met_addSample_le {s : AssigneeStat} {sample : AcceptedSample} (h : s.met ≤ s.count) :
    (addSample s sample).met ≤ (addSample s sample).count := by
  unfold addSample
  dsimp only
  split_ifs <;> omega

theorem sound_addSample {s : AssigneeStat} {sample : AcceptedSample} (hactive : 0 ≤ sample.activeHours)
    (hsla : 0 < sample.slaHours) (hmet : s.met ≤ s.count) (hnonneg : 0 ≤ s.efficiency) (hle : s.efficiency ≤ 100 * s.count) :
    (addSample s sample).Sound := by
  obtain ⟨hefficiency, hhundred⟩ := efficiencyOf_range hactive hsla
  refine ⟨Nat.succ_pos _, met_addSample_le hmet, add_nonneg hnonneg hefficiency, ?_⟩
  have hcount : ((addSample s sample).count : Rat) = s.count + 1 := Nat.cast_succ _
  rw [hcount, mul_add, mul_one]
  exact add_le_add hle hhundred

theorem sound_of_mem_statsOf {entry : Nat × AssigneeStat} (h : entry ∈ statsOf samples) : entry.2.Sound := by
  refine OrderedMap.collect_always (I := AssigneeStat.Sound) ?_ ?_ h
  · intro a ha
    obtain ⟨x, -, hx⟩ := List.mem_filterMap.mp ha
    obtain ⟨-, -, hactive, hsla⟩ := accepted_eq_some hx
    exact sound_addSample hactive hsla le_rfl le_rfl (by norm_num [blankStat])
  · intro s a ha hs
    obtain ⟨x, -, hx⟩ := List.mem_filterMap.mp ha
    obtain ⟨-, -, hactive, hsla⟩ := accepted_eq_some hx
    exact sound_addSample hactive hsla hs.met_le hs.nonneg hs.le

theorem round1_range {x : Rat} (h : 0 ≤ x ∧ x ≤ 100) : 0 ≤ round1 x ∧ round1 x ≤ 100 := by
  have hmono : ∀ {y z : Rat}, y ≤ z → jsRound y ≤ jsRound z := fun h => Int.floor_le_floor (add_le_add h le_rfl)
  have hlow : jsRound ((0 : Int) : Rat) ≤ jsRound (x * 10) := hmono (by simpa using h.1)
  have hhigh : jsRound (x * 10) ≤ jsRound ((1000 : Int) : Rat) := hmono (by norm_num; linarith [h.2])
  rw [jsRound_intCast] at hlow hhigh
  have hlow' : (0 : Rat) ≤ jsRound (x * 10) := Int.cast_nonneg hlow
  have hhigh' : (jsRound (x * 10) : Rat) ≤ 1000 := by exact_mod_cast hhigh
  unfold round1
  constructor
  · exact div_nonneg hlow' (by norm_num)
  · linarith

theorem round1_hundred : round1 100 = 100 := by
  rw [round1, show (100 : Rat) * 10 = ((1000 : Int) : Rat) by norm_num, jsRound_intCast]
  norm_num

theorem foldl_max_le_iff {b : Nat} : ∀ (counts : List Nat) (a : Nat), counts.foldl max a ≤ b ↔ a ≤ b ∧ ∀ n ∈ counts, n ≤ b
  | [], a => by simp
  | n :: counts, a => by
    rw [List.foldl_cons, foldl_max_le_iff counts, max_le_iff, List.forall_mem_cons, and_assoc]

theorem count_le_maxVolume {stats : List (Nat × AssigneeStat)} {entry : Nat × AssigneeStat} (h : entry ∈ stats) :
    entry.2.count ≤ maxVolume stats :=
  ((foldl_max_le_iff _ 1).mp le_rfl).2 _ (List.mem_map.mpr ⟨entry, h, rfl⟩)

theorem maxVolume_eq {stats : List (Nat × AssigneeStat)} {entry : Nat × AssigneeStat} (h : entry ∈ stats)
    (hpos : 0 < entry.2.count) (hmax : ∀ e ∈ stats, e.2.count ≤ entry.2.count) : maxVolume stats = entry.2.count := by
  refine le_antisymm ((foldl_max_le_iff _ 1).mpr ⟨hpos, fun n hn => ?_⟩) (count_le_maxVolume h)
  obtain ⟨e, he, rfl⟩ := List.mem_map.mp hn
  exact hmax e he

/-- The four scores of a row are percentages. -/
structure AssigneePerformanceRow.InRange (row : AssigneePerformanceRow) : Prop where
  slaRate : 0 ≤ row.slaRate ∧ row.slaRate ≤ 100
  volumeScore : 0 ≤ row.volumeScore ∧ row.volumeScore ≤ 100
  efficiencyScore : 0 ≤ row.efficiencyScore ∧ row.efficiencyScore ≤ 100
  weightedScore : 0 ≤ row.weightedScore ∧ row.weightedScore ≤ 100

theorem share_range {part whole : Nat} (h : part ≤ whole) :
    (0 : Rat) ≤ (part : Rat) / whole * 100 ∧ (part : Rat) / whole * 100 ≤ 100 := by
  have hle : (part : Rat) / whole ≤ 1 := div_le_one_of_le₀ (Nat.cast_le.mpr h) (Nat.cast_nonneg _)
  have hnonneg : (0 : Rat) ≤ (part : Rat) / whole := div_nonneg (Nat.cast_nonneg _) (Nat.cast_nonneg _)
  constructor <;> linarith

theorem inRange_performanceRow {entry : Nat × AssigneeStat} (h : entry.2.Sound) {volume : Nat}
    (hvolume : entry.2.count ≤ volume) : (performanceRow volume entry).InRange := by
  have hsla := share_range h.met_le
  have hshare := share_range hvolume
  have hcount : (0 : Rat) < entry.2.count := Nat.cast_pos.mpr h.counted
  have hefficiency : 0 ≤ entry.2.efficiency / entry.2.count ∧ entry.2.efficiency / entry.2.count ≤ 100 :=
    ⟨div_nonneg h.nonneg hcount.le, (div_le_iff₀ hcount).mpr h.le⟩
  refine ⟨round1_range hsla, round1_range hshare, round1_range hefficiency, round1_range ⟨?_, ?_⟩⟩
  · linarith [hsla.1, hshare.1, hefficiency.1]
  · linarith [hsla.2, hshare.2, hefficiency.2]

/-! ## The rows -/

/-- `a` ranks before `b`: each comparison decides where those before it are even. -/
def RanksBefore (a b : AssigneePerformanceRow) : Prop :=
  b.weightedScore < a.weightedScore ∨ b.weightedScore = a.weightedScore ∧
    (b.resolvedTickets < a.resolvedTickets ∨ b.resolvedTickets = a.resolvedTickets ∧
      (b.slaRate < a.slaRate ∨ b.slaRate = a.slaRate ∧
        (a.avgActiveResolutionHours < b.avgActiveResolutionHours ∨
          a.avgActiveResolutionHours = b.avgActiveResolutionHours ∧ a.techId < b.techId)))

theorem ranksBefore_iff {a b : AssigneePerformanceRow} : rowCompare a b = .lt ↔ RanksBefore a b := by
  simp only [rowCompare, compareLex, compareOn, Ordering.then_eq_lt, compare_lt_iff_lt,
    Std.LawfulEqCmp.compare_eq_iff_eq, RanksBefore, neg_lt_neg_iff, neg_inj, Nat.cast_lt, Nat.cast_inj]
  simp only [eq_comm]

theorem mem_scoreAssignees : row ∈ scoreAssignees samples ↔
    ∃ entry ∈ statsOf samples, performanceRow (maxVolume (statsOf samples)) entry = row :=
  List.mem_mergeSort.trans List.mem_map

/-- The rows without their order: one for each assignee of an accepted sample. -/
theorem techIds_scoreAssignees (samples : List PerformanceSample) :
    ((scoreAssignees samples).map AssigneePerformanceRow.techId).Perm ((statsOf samples).map Prod.fst) := by
  have hrows := (List.mergeSort_perm (rowsOf (statsOf samples)) fun a b => (rowCompare a b).isLE).map
    AssigneePerformanceRow.techId
  unfold rowsOf at hrows
  rwa [List.map_map] at hrows

theorem sum_resolvedTickets (samples : List PerformanceSample) :
    ((scoreAssignees samples).map AssigneePerformanceRow.resolvedTickets).sum =
      (samples.filterMap PerformanceSample.accepted).length := by
  have hrows := ((List.mergeSort_perm (rowsOf (statsOf samples)) fun a b => (rowCompare a b).isLE).map
    AssigneePerformanceRow.resolvedTickets).sum_eq
  have hcounts : ((statsOf samples).map fun entry => entry.2.count).sum =
      ((samples.filterMap PerformanceSample.accepted).map fun _ => 1).sum :=
    OrderedMap.sum_collect AssigneeStat.count _ (fun _ => rfl) (fun _ _ => rfl) _
  unfold rowsOf at hrows
  rw [List.map_map] at hrows
  rw [scoreAssignees, rowsOf, hrows]
  refine hcounts.trans ?_
  rw [List.map_const', List.sum_replicate_nat, Nat.mul_one]

/-- The ranking does not depend on the order of the samples; it has one row for each assignee of an accepted sample, which
counts those samples; the scores are percentages, with the most resolved tickets at 100; and the rows are in order. -/
theorem performance_ranking (samples : List PerformanceSample) (hname : OneName samples) :
    (∀ samples', samples.Perm samples' → scoreAssignees samples' = scoreAssignees samples) ∧
    ((scoreAssignees samples).map AssigneePerformanceRow.techId).Nodup ∧
    (∀ techId, techId ∈ (scoreAssignees samples).map AssigneePerformanceRow.techId ↔
      ∃ sample ∈ samples.filterMap PerformanceSample.accepted, sample.techId = techId) ∧
    ((scoreAssignees samples).map AssigneePerformanceRow.resolvedTickets).sum =
      (samples.filterMap PerformanceSample.accepted).length ∧
    (∀ row ∈ scoreAssignees samples, 0 ≤ row.missed ∧ row.met + row.missed = row.resolvedTickets ∧ row.InRange ∧
      ((∀ other ∈ scoreAssignees samples, other.resolvedTickets ≤ row.resolvedTickets) → row.volumeScore = 100)) ∧
    (scoreAssignees samples).Pairwise RanksBefore := by
  refine ⟨fun samples' h => (scoreAssignees_perm h hname).symm, ?_, fun techId => ?_, sum_resolvedTickets samples,
    fun row hrow => ?_, ?_⟩
  · exact (techIds_scoreAssignees samples).nodup_iff.mpr (OrderedMap.nodup _)
  · rw [(techIds_scoreAssignees samples).mem_iff]
    exact OrderedMap.mem_keys_collect
  · obtain ⟨entry, hentry, rfl⟩ := mem_scoreAssignees.mp hrow
    have hsound := sound_of_mem_statsOf hentry
    refine ⟨?_, add_sub_cancel _ _, inRange_performanceRow hsound (count_le_maxVolume hentry), fun hmost => ?_⟩
    · exact sub_nonneg.mpr (Nat.cast_le.mpr hsound.met_le)
    · have hmax : maxVolume (statsOf samples) = entry.2.count :=
        maxVolume_eq hentry hsound.counted fun e he => hmost _ (mem_scoreAssignees.mpr ⟨e, he, rfl⟩)
      have hcount : (entry.2.count : Rat) ≠ 0 := Nat.cast_ne_zero.mpr hsound.counted.ne'
      change round1 ((entry.2.count : Rat) / (maxVolume (statsOf samples) : Nat) * 100) = 100
      rw [hmax, div_self hcount, one_mul, round1_hundred]
  · exact (Lib.mergeSort_strict (rowsOf_ne samples)).imp fun h => ranksBefore_iff.mp h

/-- Two samples of one assignee and one of another. -/
theorem performance_ranking_of_three :
    let sample := fun (techId : Rat) (techName : String) (activeHours : Rat) =>
      ({ techId := some techId, techName, activeHours := some activeHours, slaHours := some 4
         metSla := none, timing := none } : PerformanceSample)
    scoreAssignees [sample 7 "A" 2, sample 9 "B" 8, sample 7 "A" 5] =
      scoreAssignees [sample 7 "A" 5, sample 7 "A" 2, sample 9 "B" 8] := by
  intro sample
  have hname : OneName [sample 7 "A" 5, sample 7 "A" 2, sample 9 "B" 8] := by
    unfold OneName
    decide
  exact (performance_ranking _ hname).1 _ (@List.perm_append_comm _ [sample 7 "A" 5] [sample 7 "A" 2, sample 9 "B" 8])

end ComplianceHub.Tickets
