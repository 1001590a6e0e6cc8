import ComplianceHub.Lib.Folds
import ComplianceHub.Reports.Builder
import ComplianceHub.Tickets.Operation

/-!
# The totals of a monthly report

* `Reconciles` : the summary, the averages, the groups and the rows agree; every ticket keeps it (`reconciles_addTicket`);
* `report_totals_reconcile` : every generated report reconciles, and its summary does not depend on the sections, the
  columns, the list or its order.
-/

namespace ComplianceHub.Reports

open Interruption Sla Tickets
open Lib (OrderedMap foldlM_always foldlM_related)

/-- The groups of a section, none where the report has no such section. -/
def Report.breakdown (report : Report) (name : ReportSection) : List ReportGroup :=
  ((report.breakdowns.find? fun entry => entry.1 = name).map Prod.snd).getD []

/-- The sum of a count over the groups of a section. -/
def groupSum (groups : OrderedMap ReportSection (OrderedMap GroupKey ReportGroup)) (name : ReportSection)
    (count : ReportGroup → Nat) : Nat :=
  (((groups.get name).getD .empty).entries.map fun entry => count entry.2).sum

/-- The sum of the counts that rows show for a kind. -/
def shownOccurrences (rows : List ReportRow) (k : InterruptionKind) : Nat := (rows.filterMap fun row => row.counts.get k).sum

/-- The list has the tickets of its basis. -/
def ListAgrees (configuration : ReportConfiguration) (summary : ReportSummary) (rows : List ReportRow) : Prop :=
  match configuration.listBasis with
  | .received => rows.length = summary.received
  | .completed => rows.length = summary.completed
  | .interrupted => ∀ k, shownOccurrences rows k = (summary.interruptions.get k).occurrences

/-- What the summary, the averages, the groups and the rows of a state have in common. -/
structure Reconciles (configuration : ReportConfiguration) (state : ReportState) : Prop where
  sla : state.summary.slaMet + state.summary.slaMissed + state.summary.slaUnavailable = state.summary.completed
  groups : ∀ name ∈ configuration.sections, name ≠ .ratings →
    groupSum state.groups name ReportGroup.tickets = state.summary.completed ∧
      groupSum state.groups name ReportGroup.slaMet = state.summary.slaMet ∧
      groupSum state.groups name ReportGroup.slaMissed = state.summary.slaMissed
  list : configuration.includeTicketList = true → ListAgrees configuration state.summary state.rows
  eligible : ∀ k, (state.averageInputs.get k).tickets ≤ (state.summary.interruptions.get k).tickets ∧
    (state.averageInputs.get k).occurrences ≤ (state.summary.interruptions.get k).occurrences

variable {r : ReportServices} {configuration : ReportConfiguration} {config : TicketingConfig} {period : ReportPeriod}
  {now : Int} {evidence : ReportEvidence} {t : BuilderTicket} {facts : TicketFacts} {state state' : ReportState}

/-! ## One ticket -/

/-- Exactly the tickets completed in the month are classified. -/
theorem ticketFacts_sla (h : ticketFacts r config period now evidence t = .ok (some facts)) :
    facts.sla.isSome = facts.completedInMonth := by
  unfold ticketFacts at h
  dsimp only at h
  by_cases hskip : lifetimeEnd period t.ticket < period.start ∧ (!inMonth period t.ticket.createdAt) = true
  · rw [if_pos hskip] at h
    cases h
  · rw [if_neg hskip] at h
    obtain ⟨measured, -, h⟩ := bind_eq_ok.mp h
    by_cases hcompleted : completedInMonth period t.ticket = true
    · rw [if_pos hcompleted] at h
      obtain ⟨timing, htiming, h⟩ := bind_eq_ok.mp h
      obtain ⟨result, -, rfl⟩ := map_eq_ok.mp htiming
      cases h
      exact hcompleted.symm
    · rw [if_neg hcompleted] at h
      cases h
      exact (Bool.eq_false_iff.mpr hcompleted).symm

theorem groupSum_addGroups {groups : OrderedMap ReportSection (OrderedMap GroupKey ReportGroup)}
    {sections : List ReportSection} (hnodup : sections.Nodup) {name : ReportSection} (hname : name ∈ sections)
    (hratings : name ≠ .ratings) (sla : Option SlaVerdict) {count : ReportGroup → Nat} {d : Nat}
    (hnew : count (newGroup t name) = 0) (hcount : ∀ group, count (countTicket sla group) = count group + d) :
    groupSum (addGroups t sla sections groups) name count = groupSum groups name count + d := by
  have hmem : name ∈ sections.filter fun name => name ≠ .ratings := List.mem_filter.mpr ⟨hname, by simpa using hratings⟩
  unfold groupSum addGroups
  rw [OrderedMap.get_foldl_set (fun (name : ReportSection) (group : OrderedMap GroupKey ReportGroup) =>
    group.add (fun t => groupKey t name) (newGroup · name) (fun group _ => countTicket sla group) t) .empty name _ _
    (hnodup.filter _), if_pos hmem, Option.getD_some]
  apply OrderedMap.sum_add
  · exact hnew
  · exact hcount

theorem shownOccurrences_append (rows : List ReportRow) (row : ReportRow) (k : InterruptionKind) :
    shownOccurrences (rows ++ [row]) k = shownOccurrences rows k + (row.counts.get k).getD 0 := by
  unfold shownOccurrences
  rw [List.filterMap_append, List.sum_append]
  cases h : row.counts.get k with
  | none => simp [h]
  | some n => simp [h]

/-- A row shows every occurrence of its ticket. -/
theorem counts_reportRow (k : InterruptionKind) :
    ((reportRow r configuration t facts).counts.get k).getD 0 = facts.counts.get k := by
  unfold reportRow
  rw [PerKind.get_of]
  split_ifs with h
  · rfl
  · exact (not_not.mp (not_or.mp h).2).symm

theorem listAgrees_addTicket {summary : ReportSummary} {rows : List ReportRow}
    (hlist : configuration.includeTicketList = true) (h : ListAgrees configuration summary rows) :
    ListAgrees configuration (addSummary summary facts)
      (if isListed configuration facts then rows ++ [reportRow r configuration t facts] else rows) := by
  unfold ListAgrees isListed at *
  rw [hlist, Bool.true_and]
  cases hbasis : configuration.listBasis with
  | completed =>
    rw [hbasis] at h
    dsimp only at h ⊢
    cases hcompleted : facts.completedInMonth with
    | true => simp [addSummary, oneIf, hcompleted, h]
    | false => simp [addSummary, oneIf, hcompleted, h]
  | received =>
    rw [hbasis] at h
    dsimp only at h ⊢
    cases hreceived : facts.receivedInMonth with
    | true => simp [addSummary, oneIf, hreceived, h]
    | false => simp [addSummary, oneIf, hreceived, h]
  | interrupted =>
    rw [hbasis] at h
    dsimp only at h ⊢
    intro k
    have htotal : ((addSummary summary facts).interruptions.get k).occurrences =
        (summary.interruptions.get k).occurrences + facts.counts.get k := by
      unfold addSummary addInterruptions
      rw [PerKind.get_of]
    rw [htotal, ← h k]
    by_cases hsome : 0 < facts.counts.get .pause + facts.counts.get .freeze
    · rw [if_pos (decide_eq_true hsome), shownOccurrences_append, counts_reportRow]
    · -- a ticket that is not listed has no occurrence of either kind
      have hzero : facts.counts.get k = 0 := by
        cases k <;> omega
      rw [if_neg (by simpa using hsome), hzero, Nat.add_zero]

theorem reconciles_addTicket (hsla : facts.sla.isSome = facts.completedInMonth) (h : Reconciles configuration state) :
    Reconciles configuration (addTicket r configuration t facts state) := by
  refine ⟨?_, fun name hname hratings => ?_, fun hlist => listAgrees_addTicket hlist (h.list hlist), fun k => ?_⟩
  · have hold := h.sla
    unfold addTicket addSummary
    dsimp only
    rw [← hsla]
    cases facts.sla with
    | none => simpa [oneIf] using hold
    | some verdict => cases verdict <;> simp [oneIf] <;> omega
  · obtain ⟨htickets, hmet, hmissed⟩ := h.groups name hname hratings
    unfold addTicket addSummary
    dsimp only
    cases hcompleted : facts.completedInMonth with
    | true =>
      rw [if_pos rfl, ← htickets, ← hmet, ← hmissed]
      exact ⟨groupSum_addGroups configuration.sections_nodup hname hratings facts.sla rfl fun _ => rfl,
        groupSum_addGroups configuration.sections_nodup hname hratings facts.sla rfl fun _ => rfl,
        groupSum_addGroups configuration.sections_nodup hname hratings facts.sla rfl fun _ => rfl⟩
    | false =>
      have hnone : facts.sla = none := by
        rw [hcompleted] at hsla
        exact Option.not_isSome_iff_eq_none.mp (by simp [hsla])
      rw [if_neg Bool.false_ne_true, hnone]
      exact ⟨htickets, hmet, hmissed⟩
  · obtain ⟨htickets, hoccurrences⟩ := h.eligible k
    unfold addTicket addSummary addEligible addInterruptions
    dsimp only
    rw [PerKind.get_of, PerKind.get_of]
    split_ifs with hcounted
    · constructor
      · simp [oneIf, hcounted.2, htickets]
      · exact Nat.add_le_add_right hoccurrences _
    · exact ⟨htickets.trans (Nat.le_add_right _ _), hoccurrences.trans (Nat.le_add_right _ _)⟩

theorem addSource_eq_ok (h : addSource r config period now evidence configuration state t = .ok state') :
    state' = state ∨ ∃ facts, ticketFacts r config period now evidence t = .ok (some facts) ∧
      state' = addTicket r configuration t facts state := by
  unfold addSource at h
  obtain ⟨facts, hfacts, h⟩ := bind_eq_ok.mp h
  cases facts with
  | none =>
    cases h
    exact .inl rfl
  | some facts =>
    cases h
    exact .inr ⟨facts, hfacts, rfl⟩

/-! ## The loop -/

theorem reconciles_start (configuration : ReportConfiguration) (auditUnavailable : Bool) :
    Reconciles configuration { summary := { auditEvidenceUnavailable := auditUnavailable } } := by
  refine ⟨rfl, fun _ _ _ => ⟨rfl, rfl, rfl⟩, fun _ => ?_, fun k => ⟨le_rfl, le_rfl⟩⟩
  unfold ListAgrees
  cases configuration.listBasis with
  | completed => rfl
  | received => rfl
  | interrupted => intro k; cases k <;> rfl

theorem reconciles_loop {source : List BuilderTicket} {auditUnavailable : Bool}
    (h : source.foldlM (addSource r config period now evidence configuration)
      { summary := { auditEvidenceUnavailable := auditUnavailable } } = .ok state) : Reconciles configuration state := by
  refine foldlM_always h (fun a t b _ ha hstep => ?_) (reconciles_start configuration auditUnavailable)
  rcases addSource_eq_ok hstep with rfl | ⟨facts, hfacts, rfl⟩
  · exact ha
  · exact reconciles_addTicket (ticketFacts_sla hfacts) ha

/-! ## Two runs -/

/-- What the loop measures: a ticket without its description and labels. -/
def BuilderTicket.measured (t : BuilderTicket) : Ticket × Option TicketIssueType := (t.ticket, t.issueTypeConfig)

theorem ticketFacts_congr {t' : BuilderTicket} (h : t.measured = t'.measured) :
    ticketFacts r config period now evidence t = ticketFacts r config period now evidence t' := by
  have hticket : t.ticket = t'.ticket := congrArg Prod.fst h
  have hissue : t.issueTypeConfig = t'.issueTypeConfig := congrArg Prod.snd h
  unfold ticketFacts
  rw [hticket, hissue]

theorem loop_summary {source source' : List BuilderTicket} {configuration' : ReportConfiguration} {start : ReportState}
    (hsame : source.map BuilderTicket.measured = source'.map BuilderTicket.measured)
    (h : source.foldlM (addSource r config period now evidence configuration) start = .ok state)
    (h' : source'.foldlM (addSource r config period now evidence configuration') start = .ok state') :
    finishSummary state = finishSummary state' := by
  have hpairs : List.Forall₂ (fun t t' => BuilderTicket.measured t = BuilderTicket.measured t') source source' := by
    have heq : List.Forall₂ Eq (source.map BuilderTicket.measured) (source'.map BuilderTicket.measured) := by
      rw [hsame]
      exact List.forall₂_same.mpr fun _ _ => rfl
    exact List.forall₂_map_left_iff.mp (List.forall₂_map_right_iff.mp heq)
  have hrelated := foldlM_related (R := fun a b : ReportState => a.summary = b.summary ∧ a.averageInputs = b.averageInputs)
    (fun a b t t' a' b' ht hab hstep hstep' => ?_) hpairs h h' ⟨rfl, rfl⟩
  · unfold finishSummary
    rw [hrelated.1, hrelated.2]
  · unfold addSource at hstep hstep'
    obtain ⟨facts, hread, hstep⟩ := bind_eq_ok.mp hstep
    obtain ⟨facts', hread', hstep'⟩ := bind_eq_ok.mp hstep'
    obtain rfl := Except.ok.inj (hread.symm.trans ((ticketFacts_congr ht).trans hread'))
    cases facts with
    | none =>
      cases hstep
      cases hstep'
      exact hab
    | some facts =>
      cases hstep
      cases hstep'
      exact ⟨congrArg (addSummary · facts) hab.1, congrArg (addEligible · facts) hab.2⟩

/-- What a selection returns are the selected tickets, with or without their descriptions. -/
theorem getMonthlyBuilderTickets_same {start cutoff : Int} {actor : ReportActor} {technicianId : Option Nat}
    {ticketType : Option TicketType} {includeDescription : Bool} {source : List BuilderTicket}
    (h : getMonthlyBuilderTickets r start cutoff actor technicianId ticketType includeDescription = .ok source) :
    source.map BuilderTicket.measured =
      (r.select start cutoff (if actor.manage then technicianId else some actor.id) ticketType).map BuilderTicket.measured := by
  unfold getMonthlyBuilderTickets at h
  obtain ⟨_, -, h⟩ := bind_eq_ok.mp h
  obtain ⟨_, -, h⟩ := bind_eq_ok.mp h
  cases includeDescription with
  | true =>
    obtain ⟨_, -, h⟩ := bind_eq_ok.mp h
    obtain ⟨_, -, h⟩ := bind_eq_ok.mp h
    obtain ⟨_, -, h⟩ := bind_eq_ok.mp h
    cases h
    rfl
  | false =>
    obtain ⟨_, -, h⟩ := bind_eq_ok.mp h
    cases h
    rw [if_neg Bool.false_ne_true, List.map_map]
    rfl

theorem loadEvidence_congr {start : Int} {source source' : List BuilderTicket}
    (h : source.map BuilderTicket.measured = source'.map BuilderTicket.measured) :
    loadEvidence r start now source = loadEvidence r start now source' := by
  -- the ids are read from the measured tickets
  have hids : ∀ source : List BuilderTicket,
      (source.filter fun t => !hasRecordedMonthlyHistory t.ticket.interruptionHistory start).map (fun t => t.ticket.id) =
        ((source.map BuilderTicket.measured).filter fun x => !hasRecordedMonthlyHistory x.1.interruptionHistory start).map
          fun x => x.1.id := by
    intro source
    rw [List.filter_map, List.map_map]
    rfl
  unfold loadEvidence
  rw [hids source, hids source', h]

/-! ## The report -/

theorem generate_eq_ok {actor : ReportActor} {requested : ReportConfiguration} {year : Int} {month : Nat} {report : Report}
    (h : generate r actor requested year month now = .ok report) :
    ∃ config scope period source evidence state, r.config = some config ∧ monthlyReportPeriod year month now = .ok period ∧
      getMonthlyBuilderTickets r period.start period.cutoff actor requested.technicianId requested.ticketType
        ((scopeConfiguration actor requested).includeTicketList &&
          (scopeConfiguration actor requested).columns.contains .description) = .ok source ∧
      loadEvidence r period.start now source = .ok evidence ∧
      source.foldlM (addSource r config period now evidence (scopeConfiguration actor requested))
        { summary := { auditEvidenceUnavailable := evidence.auditUnavailable } } = .ok state ∧
      report = finishReport r actor (scopeConfiguration actor requested) year month now period scope state := by
  have hscope : (scopeConfiguration actor requested).technicianId = requested.technicianId ∧
      (scopeConfiguration actor requested).ticketType = requested.ticketType := by
    unfold scopeConfiguration
    split_ifs
    · exact ⟨rfl, rfl⟩
    · exact ⟨rfl, rfl⟩
  unfold generate at h
  obtain ⟨_, -, h⟩ := bind_eq_ok.mp h
  obtain ⟨_, -, h⟩ := bind_eq_ok.mp h
  dsimp only at h
  rw [hscope.1, hscope.2] at h
  obtain ⟨scope, -, h⟩ := bind_eq_ok.mp h
  obtain ⟨period, hperiod, h⟩ := bind_eq_ok.mp h
  cases hconfig : r.config with
  | none =>
    rw [hconfig] at h
    cases h
  | some config =>
    rw [hconfig] at h
    obtain ⟨source, hsource, h⟩ := bind_eq_ok.mp h
    obtain ⟨_, -, h⟩ := bind_eq_ok.mp h
    obtain ⟨evidence, hevidence, h⟩ := bind_eq_ok.mp h
    obtain ⟨state, hstate, h⟩ := bind_eq_ok.mp h
    cases h
    exact ⟨config, scope, period, source, evidence, state, rfl, hperiod, hsource, hevidence, hstate, rfl⟩

/-- The groups of a section are those of the loop, in another order. -/
theorem sum_breakdown {actor : ReportActor} {year : Int} {month : Nat} {scope : String} (name : ReportSection)
    (count : ReportGroup → Nat) :
    (((finishReport r actor configuration year month now period scope state).breakdown name).map count).sum =
      groupSum state.groups name count := by
  unfold Report.breakdown finishReport groupSum OrderedMap.get
  dsimp only
  rw [List.find?_map]
  change ((((state.groups.entries.find? fun entry => entry.1 = name).map _).map Prod.snd).getD [] |>.map count).sum = _
  cases state.groups.entries.find? fun entry => entry.1 = name with
  | none => rfl
  | some entry =>
    have hperm := ((List.mergeSort_perm (entry.2.entries.map Prod.snd) (groupLE r)).map count).sum_eq
    rw [List.map_map] at hperm
    exact hperm

theorem listAgrees_sort {actor : ReportActor} {year : Int} {month : Nat} {scope : String}
    (h : ListAgrees configuration state.summary state.rows) :
    ListAgrees configuration (finishReport r actor configuration year month now period scope state).summary
      (finishReport r actor configuration year month now period scope state).rows := by
  have hperm := List.mergeSort_perm state.rows (rowLE r configuration.sortOrder)
  unfold ListAgrees finishReport finishSummary at *
  dsimp only
  cases hbasis : configuration.listBasis with
  | completed =>
    rw [hbasis] at h
    exact hperm.length_eq.trans h
  | received =>
    rw [hbasis] at h
    exact hperm.length_eq.trans h
  | interrupted =>
    rw [hbasis] at h
    intro k
    rw [PerKind.get_of]
    exact ((hperm.filterMap _).sum_eq).trans (h k)

theorem scopeConfiguration_list (actor : ReportActor) (requested : ReportConfiguration) :
    (scopeConfiguration actor requested).includeTicketList = requested.includeTicketList ∧
      (scopeConfiguration actor requested).listBasis = requested.listBasis := by
  unfold scopeConfiguration
  split_ifs
  · exact ⟨rfl, rfl⟩
  · exact ⟨rfl, rfl⟩

/-- Only the staff section of a report on one person is left out. -/
theorem mem_sections_scope {actor : ReportActor} {requested : ReportConfiguration} {name : ReportSection}
    (h : name ∈ requested.sections) : name ∈ (scopeConfiguration actor requested).sections ∨
      name = .staff ∧ ¬ (actor.manage = true ∧ (scopeConfiguration actor requested).technicianId = none) := by
  unfold scopeConfiguration
  split_ifs with hall
  · exact .inl h
  · by_cases hstaff : name = .staff
    · exact .inr ⟨hstaff, hall⟩
    · exact .inl (List.mem_filter.mpr ⟨h, by simpa using hstaff⟩)

/-- The averages are over tickets and occurrences that the totals count. -/
theorem eligible_finishSummary (h : Reconciles configuration state) (k : InterruptionKind) :
    ((finishSummary state).interruptions.get k).averageEligibleTickets ≤ ((finishSummary state).interruptions.get k).tickets ∧
      ((finishSummary state).interruptions.get k).averageEligibleOccurrences ≤
        ((finishSummary state).interruptions.get k).occurrences := by
  unfold finishSummary
  rw [PerKind.get_of]
  exact h.eligible k

/-- Two reports of one scope have one summary. -/
theorem summary_eq {actor : ReportActor} {requested requested' : ReportConfiguration} {year : Int} {month : Nat}
    {report report' : Report} (htechnician : requested'.technicianId = requested.technicianId)
    (htype : requested'.ticketType = requested.ticketType) (h : generate r actor requested year month now = .ok report)
    (h' : generate r actor requested' year month now = .ok report') : report'.summary = report.summary := by
  obtain ⟨config, scope, period, source, evidence, state, hconfig, hperiod, hsource, hevidence, hstate, rfl⟩ :=
    generate_eq_ok h
  obtain ⟨config', scope', period', source', evidence', state', hconfig', hperiod', hsource', hevidence', hstate', rfl⟩ :=
    generate_eq_ok h'
  obtain rfl := Option.some_injective _ (hconfig.symm.trans hconfig')
  obtain rfl := Except.ok.inj (hperiod.symm.trans hperiod')
  rw [htechnician, htype] at hsource'
  have hsame : source'.map BuilderTicket.measured = source.map BuilderTicket.measured :=
    (getMonthlyBuilderTickets_same hsource').trans (getMonthlyBuilderTickets_same hsource).symm
  obtain rfl := Except.ok.inj (hevidence.symm.trans ((loadEvidence_congr hsame).symm.trans hevidence'))
  exact loop_summary hsame hstate' hstate

/-- Every report reconciles: the classified tickets are the completed ones, so are the tickets of each breakdown, the
list has the tickets of its basis, and no average counts more than the total; and a report of the same scope with other
sections, columns, list and order has the same summary. -/
theorem report_totals_reconcile (r : ReportServices) (actor : ReportActor) (requested : ReportConfiguration) (year : Int)
    (month : Nat) (now : Int) (report : Report) (h : generate r actor requested year month now = .ok report) :
    report.summary.slaMet + report.summary.slaMissed + report.summary.slaUnavailable = report.summary.completed ∧
    (∀ name ∈ report.configuration.sections, name ≠ .ratings →
      ((report.breakdown name).map ReportGroup.tickets).sum = report.summary.completed ∧
      ((report.breakdown name).map ReportGroup.slaMet).sum = report.summary.slaMet ∧
      ((report.breakdown name).map ReportGroup.slaMissed).sum = report.summary.slaMissed) ∧
    (∀ name ∈ requested.sections, name ∈ report.configuration.sections ∨
      name = .staff ∧ report.scopeMode = .individual) ∧
    (requested.includeTicketList = true →
      (requested.listBasis = .received → report.rows.length = report.summary.received) ∧
      (requested.listBasis = .completed → report.rows.length = report.summary.completed) ∧
      (requested.listBasis = .interrupted →
        ∀ k, shownOccurrences report.rows k = (report.summary.interruptions.get k).occurrences)) ∧
    (∀ k, (report.summary.interruptions.get k).averageEligibleTickets ≤ (report.summary.interruptions.get k).tickets ∧
      (report.summary.interruptions.get k).averageEligibleOccurrences ≤
        (report.summary.interruptions.get k).occurrences) ∧
    (∀ other report', other.technicianId = requested.technicianId → other.ticketType = requested.ticketType →
      generate r actor other year month now = .ok report' → report'.summary = report.summary) := by
  have htwo : ∀ other report', other.technicianId = requested.technicianId → other.ticketType = requested.ticketType →
      generate r actor other year month now = .ok report' → report'.summary = report.summary :=
    fun _ _ htechnician htype h' => summary_eq htechnician htype h h'
  obtain ⟨config, scope, period, source, evidence, state, -, -, -, -, hstate, rfl⟩ := generate_eq_ok h
  have hreconciles := reconciles_loop hstate
  obtain ⟨hlist, hbasis⟩ := scopeConfiguration_list actor requested
  refine ⟨hreconciles.sla, fun name hname hratings => ?_, fun name hname => ?_, fun hinclude => ?_,
    eligible_finishSummary hreconciles, htwo⟩
  · rw [sum_breakdown, sum_breakdown, sum_breakdown]
    exact hreconciles.groups name hname hratings
  · refine (mem_sections_scope hname).imp id fun ⟨hstaff, hall⟩ => ⟨hstaff, ?_⟩
    unfold finishReport
    exact if_neg hall
  · have hagrees : ListAgrees (scopeConfiguration actor requested)
        (finishReport r actor (scopeConfiguration actor requested) year month now period scope state).summary
        (finishReport r actor (scopeConfiguration actor requested) year month now period scope state).rows :=
      listAgrees_sort (hreconciles.list (hlist.trans hinclude))
    unfold ListAgrees at hagrees
    rw [hbasis] at hagrees
    refine ⟨fun h => ?_, fun h => ?_, fun h => ?_⟩
    · rw [h] at hagrees
      exact hagrees
    · rw [h] at hagrees
      exact hagrees
    · rw [h] at hagrees
      exact hagrees

/-- A ticket received and resolved in January 1970, with a recorded history. -/
def resolvedTicket : BuilderTicket where
  ticket := { id := 1, requesterId := 2, assignedToId := some 3, status := .resolved, createdAt := 0
              resolvedAt := some 3600000, slaDeadline := some 7200000
              interruptionHistory := some (newInterruptionHistory 0) }
  ticketNumber := "T-1"
  description := none
  requester := some "R"
  assignedTo := some "S"
  category := none
  issueTypeConfig := none
  issueName := none

def reportOffice : ReportServices where
  services := office 0
  config := some {}
  select := fun _ _ _ _ => [resolvedTicket]
  descriptionBytes := fun _ _ _ _ => 0
  usersAvailable := true
  accountName := fun _ => some "S"
  evidence := fun _ _ => .ok ⟨fun _ => [], false⟩
  localeCompare := compare
  numericCompare := compare
  isoText := toString

def staffReport : ReportConfiguration where
  title := "January"
  sections := [.staff]
  includeTicketList := true
  listBasis := .completed
  columns := [.subject]
  sortBy := .ticketNumber
  sortOrder := .asc
  ticketType := none
  technicianId := none
  title_ok := by decide
  sections_nodup := by decide
  columns_nodup := by decide
  technicianId_pos := fun _ h => by cases h

theorem report_totals_reconcile_january :
    ∃ report, generate reportOffice ⟨4, true, true⟩ staffReport 1970 1 86400000 = .ok report ∧
      ((report.breakdown .staff).map ReportGroup.tickets).sum = 1 ∧ report.rows.length = 1 := by
  obtain ⟨report, h, hconfiguration, hcompleted⟩ : ∃ report,
      generate reportOffice ⟨4, true, true⟩ staffReport 1970 1 86400000 = .ok report ∧
        report.configuration.sections = [.staff] ∧ report.summary.completed = 1 := ⟨_, rfl, rfl, rfl⟩
  obtain ⟨-, hgroups, -, hlist, -⟩ := report_totals_reconcile _ _ _ _ _ _ report h
  obtain ⟨htickets, -⟩ := hgroups .staff (by rw [hconfiguration]; exact List.mem_singleton_self _) (by decide)
  obtain ⟨-, hrows, -⟩ := hlist rfl
  exact ⟨report, h, htickets.trans hcompleted, (hrows rfl).trans hcompleted⟩

end ComplianceHub.Reports
