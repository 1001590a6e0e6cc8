import ComplianceHub.Duty.Logs
import ComplianceHub.Lib.Overwrite

/-!
# The end of a day

* `ended`, `takesBack` : the coverages that the end of the day completes, and the attendance that it gives back;
* `Finalized` : what the end of some coverages leaves, in terms of the tables before (`finalized_foldl`);
* `EndsOnce` : no reliever who was away is present afterwards, and no technician has a duty that took place beside one
  that did not;
* `finalizeToday_again` : where that holds, the end of the day once more changes nothing.
-/

namespace ComplianceHub.Duty

open ComplianceHub.Lib

variable {s s' : Services} {db db' : DutyDb} {coverage row : DutyDailyCoverage}

/-- A coverage that the end of the day looks at. -/
def isDue (s : Services) (row : DutyDailyCoverage) : Bool :=
  row.dutyDate = s.today && (row.status = .active || row.status = .released)

theorem finalizeCoverages_eq (s : Services) (db : DutyDb) :
    finalizeCoverages s db = (db.coverages.filter (isDue s)).foldl finalizeCoverage db := rfl

/-- The duty of a coverage took place, and somebody did it. -/
def ended (db : DutyDb) (coverage : DutyDailyCoverage) : Bool := coverage.assignedUserId.isSome && dutyOccurred db coverage

/-- An attendance without its status and its notes. -/
abbrev AttendanceKey := Nat × Int × Option Int × Bool

/-- The attendance that the end of a coverage gives back. -/
def takesBack (db : DutyDb) : Overwriting DutyDailyCoverage AttendanceKey TechAttendance where
  key row := (row.userId, row.date, row.clockInTime, row.isManualOverride)
  touches coverage key := (ended db coverage || coverage.status ≠ .released) && coverage.attendanceOverridden &&
    coverage.assignedUserId = some key.1 && key.2.1 = coverage.dutyDate
  value coverage key :=
    { userId := key.1
      date := key.2.1
      status := coverage.previousAttendanceStatus.getD .present
      clockInTime := key.2.2.1
      isManualOverride := key.2.2.2
      notes := coverage.previousAttendanceNotes }
  key_value _ _ := rfl

/-- Whether a meeting took place, with its date. -/
def rendering (db : DutyDb) (id : Nat) : Option (Int × Bool) :=
  (db.reservation? id).map fun row => (row.meetingDate, isRendered row.status)

/-! ## One coverage -/

theorem dutyOccurred_eq (db : DutyDb) (coverage : DutyDailyCoverage) : dutyOccurred db coverage =
    (coverage.dutyType = .OD || coverage.reservationId.any fun id => (rendering db id).any Prod.snd) := by
  unfold dutyOccurred rendering
  cases coverage.reservationId with
  | none => rfl
  | some id =>
    rw [Option.bind_some, Option.any_some, Option.any_map]

theorem dutyOccurred_congr (h : ∀ id, rendering db' id = rendering db id) : dutyOccurred db' = dutyOccurred db := by
  funext coverage
  rw [dutyOccurred_eq, dutyOccurred_eq]
  simp only [h]

theorem ended_congr (h : ∀ id, rendering db' id = rendering db id) : ended db' = ended db := by
  unfold ended
  rw [dutyOccurred_congr h]

theorem takesBack_congr (h : ∀ id, rendering db' id = rendering db id) : takesBack db' = takesBack db := by
  unfold takesBack
  rw [ended_congr h]

theorem restoreAttendance_taken (h : (ended db coverage || coverage.status ≠ .released) = true) (x : DutyDb) :
    (restoreAttendance coverage x).attendance = x.attendance.map fun row => (takesBack db).write row coverage := by
  have hwrite (row : TechAttendance) : (takesBack db).write row coverage =
      if coverage.attendanceOverridden = true ∧ coverage.assignedUserId = some row.userId ∧ row.date = coverage.dutyDate then
        restored coverage row else row := by
    have htouches : (takesBack db).touches coverage ((takesBack db).key row) = true ↔
        coverage.attendanceOverridden = true ∧ coverage.assignedUserId = some row.userId ∧ row.date = coverage.dutyDate := by
      unfold takesBack
      dsimp only
      rw [h, Bool.true_and, Bool.and_eq_true, Bool.and_eq_true, decide_eq_true_eq, decide_eq_true_eq, and_assoc]
    unfold Overwriting.write
    by_cases hrow : coverage.attendanceOverridden = true ∧ coverage.assignedUserId = some row.userId ∧ row.date = coverage.dutyDate
    · rw [if_pos hrow, if_pos (htouches.mpr hrow)]
      rfl
    · rw [if_neg hrow, if_neg (mt htouches.mp hrow)]
  simp only [hwrite]
  unfold restoreAttendance
  split
  · rename_i userId huser
    split_ifs with hover
    · refine List.map_congr_left fun row _ => ?_
      rw [huser]
      simp only [hover, true_and, Option.some.injEq, eq_comm]
    · simp [hover]
  · rename_i hnone
    simp [hnone]

theorem completeMeeting_attendance (reservationId : Option Nat) (db : DutyDb) :
    (completeMeeting reservationId db).attendance = db.attendance := by
  unfold completeMeeting
  split <;> rfl

theorem recordCompletedCoverage_eq (coverage : DutyDailyCoverage) (db : DutyDb) :
    ∃ assignments, recordCompletedCoverage coverage db = { db with assignments } := by
  unfold recordCompletedCoverage
  split
  · exact ⟨_, rfl⟩
  · split_ifs <;> exact ⟨_, rfl⟩

theorem ended_eq_true : ended db coverage = true ↔ coverage.assignedUserId.isSome = true ∧ dutyOccurred db coverage = true := by
  unfold ended
  rw [Bool.and_eq_true]

theorem finalizeCoverage_ended (h : ended db coverage = true) : finalizeCoverage db coverage =
    restoreAttendance coverage (completeMeeting coverage.reservationId
      ((recordCompletedCoverage coverage db).saveCoverage { coverage with status := .completed })) :=
  if_pos (ended_eq_true.mp h)

theorem finalizeCoverage_left (h : ended db coverage = false) : finalizeCoverage db coverage =
    if coverage.status = .released then db else restoreAttendance coverage db := by
  refine if_neg fun hended => ?_
  rw [ended_eq_true.mpr hended] at h
  cases h

theorem finalizeCoverage_attendance (coverage : DutyDailyCoverage) (db : DutyDb) :
    (finalizeCoverage db coverage).attendance = db.attendance.map fun row => (takesBack db).write row coverage := by
  cases hended : ended db coverage with
  | true =>
    have htaken : (ended db coverage || coverage.status ≠ .released) = true := by rw [hended, Bool.true_or]
    rw [finalizeCoverage_ended hended, restoreAttendance_taken htaken, completeMeeting_attendance]
    obtain ⟨_, hlogs⟩ := recordCompletedCoverage_eq coverage db
    rw [hlogs]
    rfl
  | false =>
    rw [finalizeCoverage_left hended]
    split_ifs with hreleased
    · refine (List.map_id _).symm.trans (List.map_congr_left fun row _ => (write_untouched ?_).symm)
      unfold takesBack
      simp [hended, hreleased]
    · exact restoreAttendance_taken (by simp [hreleased]) db

theorem finalizeCoverage_coverages (hdb : Keyed db) (hmem : coverage ∈ db.coverages) :
    (finalizeCoverage db coverage).coverages = db.coverages.map fun row =>
      if (coverage.id = row.id && ended db coverage) = true then { row with status := .completed } else row := by
  cases hended : ended db coverage with
  | true =>
    rw [finalizeCoverage_ended hended, restoreAttendance_coverages, completeMeeting_coverages]
    obtain ⟨_, hlogs⟩ := recordCompletedCoverage_eq coverage db
    rw [hlogs]
    refine List.map_congr_left fun row hrow => ?_
    by_cases hid : row.id = coverage.id
    · obtain rfl := hdb.eq_coverage hrow hmem hid
      simp
    · have hother : ¬ coverage.id = row.id := fun h => hid h.symm
      simp [hid, hother]
  | false =>
    rw [finalizeCoverage_left hended]
    have hsame : (if coverage.status = .released then db else restoreAttendance coverage db).coverages = db.coverages := by
      split_ifs
      · rfl
      · exact restoreAttendance_coverages _ _
    rw [hsame]
    simp

theorem reservation?_saveReservation (meeting : DutyMeetingReservation) (db : DutyDb) (id : Nat) :
    (db.saveReservation meeting).reservation? id =
      (db.reservation? id).map fun row => if row.id = meeting.id then meeting else row := by
  unfold DutyDb.saveReservation DutyDb.reservation?
  dsimp only
  rw [List.find?_map]
  congr 2
  funext row
  rw [Function.comp_apply]
  split_ifs with hid
  · rw [hid]
  · rfl

/-- A meeting that took place is completed. -/
theorem rendering_completeMeeting {reservationId : Option Nat}
    (h : ∀ row, reservationId.bind db.reservation? = some row → isRendered row.status = true) (id : Nat) :
    rendering (completeMeeting reservationId db) id = rendering db id := by
  unfold completeMeeting
  split
  · rfl
  · rename_i meeting hfound
    obtain ⟨hfound, -⟩ := Option.filter_eq_some_iff.mp hfound
    have hrendered := h meeting hfound
    obtain ⟨own, -, hstored⟩ := Option.bind_eq_some_iff.mp hfound
    unfold rendering
    rw [reservation?_saveReservation]
    cases hrow : db.reservation? id with
    | none => rfl
    | some row =>
      have hid := (reservation?_eq_some hrow).2
      have hown := (reservation?_eq_some hstored).2
      rw [Option.map_some, Option.map_some, Option.map_some]
      split_ifs with hsame
      · rw [← hown, ← hsame, hid, hrow] at hstored
        cases hstored
        rw [hrendered]
        rfl
      · rfl

theorem rendering_of_eq (h : db'.reservations = db.reservations) (id : Nat) : rendering db' id = rendering db id := by
  unfold rendering DutyDb.reservation?
  rw [h]

/-- The end of a coverage leaves what took place. -/
theorem rendering_finalizeCoverage (hregular : coverage.Regular) (id : Nat) :
    rendering (finalizeCoverage db coverage) id = rendering db id := by
  cases hended : ended db coverage with
  | true =>
    rw [finalizeCoverage_ended hended, rendering_of_eq (restoreAttendance_reservations _ _)]
    obtain ⟨_, hlogs⟩ := recordCompletedCoverage_eq coverage db
    rw [hlogs]
    refine (rendering_completeMeeting (fun row hrow => ?_) id).trans (rendering_of_eq rfl id)
    have hoccurred := (ended_eq_true.mp hended).2
    unfold dutyOccurred at hoccurred
    rw [Bool.or_eq_true, decide_eq_true_eq] at hoccurred
    rcases hoccurred with hod | hrendered
    · rw [(hregular.od hod).1] at hrow
      cases hrow
    · change coverage.reservationId.bind db.reservation? = some row at hrow
      rw [hrow] at hrendered
      exact hrendered
  | false =>
    rw [finalizeCoverage_left hended]
    split_ifs
    · rfl
    · exact rendering_of_eq (restoreAttendance_reservations _ _) id

theorem finalizeCoverage_relievers (coverage : DutyDailyCoverage) (db : DutyDb) :
    (finalizeCoverage db coverage).relievers = db.relievers := by
  unfold finalizeCoverage
  split_ifs
  · rw [restoreAttendance_relievers, completeMeeting_relievers]
    obtain ⟨_, hlogs⟩ := recordCompletedCoverage_eq coverage db
    rw [hlogs]
    rfl
  · rfl
  · exact restoreAttendance_relievers _ _

/-! ## All of them -/

/-- A row after the end of some coverages. -/
def completes (db : DutyDb) (items : List DutyDailyCoverage) (row : DutyDailyCoverage) : DutyDailyCoverage :=
  if (items.any fun coverage => coverage.id = row.id && ended db coverage) = true then { row with status := .completed } else row

/-- What the end of some coverages leaves. -/
structure Finalized (db : DutyDb) (items : List DutyDailyCoverage) (db' : DutyDb) : Prop where
  coverages : db'.coverages = db.coverages.map (completes db items)
  attendance : db'.attendance = db.attendance.map fun row => items.foldl (takesBack db).write row
  rendering : ∀ id, rendering db' id = rendering db id
  relievers : db'.relievers = db.relievers

theorem finalized_foldl (items : List DutyDailyCoverage) (hdb : Sane db) (hids : (items.map DutyDailyCoverage.id).Nodup)
    (hitems : ∀ coverage ∈ items, coverage ∈ db.coverages) : Finalized db items (items.foldl finalizeCoverage db) := by
  induction items generalizing db with
  | nil =>
    refine ⟨?_, ?_, fun _ => rfl, rfl⟩
    · exact (List.map_id _).symm.trans (List.map_congr_left fun row _ => rfl)
    · exact (List.map_id _).symm
  | cons coverage rest ih =>
    rw [List.map_cons, List.nodup_cons] at hids
    have hmem := hitems coverage List.mem_cons_self
    have hrest : ∀ other ∈ rest, other ∈ (finalizeCoverage db coverage).coverages := fun other hother =>
      finalizeCoverage_keeps (hitems other (List.mem_cons_of_mem _ hother)) fun hid => hids.1 (by
        rw [← hid]
        exact List.mem_map_of_mem hother)
    obtain ⟨hcoverages, hattendance, hrendering, hrelievers⟩ := ih (hdb.finalizeCoverage hmem) hids.2 hrest
    have hfirst (id : Nat) : rendering (finalizeCoverage db coverage) id = rendering db id :=
      rendering_finalizeCoverage (hdb.regular coverage hmem) id
    refine ⟨?_, ?_, fun id => (hrendering id).trans (hfirst id), ?_⟩
    · rw [List.foldl_cons, hcoverages, finalizeCoverage_coverages hdb.keyed hmem, List.map_map]
      refine List.map_congr_left fun row _ => ?_
      rw [Function.comp_apply]
      unfold completes
      rw [ended_congr hfirst, List.any_cons]
      cases hone : coverage.id = row.id && ended db coverage with
      | true =>
        rw [if_pos rfl, Bool.true_or, if_pos rfl]
        split_ifs <;> rfl
      | false => rw [if_neg Bool.false_ne_true, Bool.false_or]
    · rw [List.foldl_cons, hattendance, finalizeCoverage_attendance, takesBack_congr hfirst, List.map_map]
      rfl
    · rw [List.foldl_cons, hrelievers, finalizeCoverage_relievers]

theorem finalized_finalizeCoverages (hdb : Sane db) :
    Finalized db (db.coverages.filter (isDue s)) (finalizeCoverages s db) :=
  finalized_foldl _ hdb (hdb.keyed.coverageIds.sublist (List.filter_sublist.map _)) fun _ hmem => (List.mem_filter.mp hmem).1

/-- A coverage whose duty did not take place gives its attendance back, and nothing else. -/
theorem foldl_left (items : List DutyDailyCoverage) (h : ∀ coverage ∈ items, ended db coverage = false) :
    ∃ attendance, items.foldl finalizeCoverage db = { db with attendance } := by
  induction items generalizing db with
  | nil => exact ⟨_, rfl⟩
  | cons coverage rest ih =>
    obtain ⟨attendance, hfirst⟩ : ∃ attendance, finalizeCoverage db coverage = { db with attendance } := by
      rw [finalizeCoverage_left (h coverage List.mem_cons_self)]
      split_ifs
      · exact ⟨_, rfl⟩
      · exact restoreAttendance_eq coverage db
    rw [List.foldl_cons, hfirst]
    have hsame : ended { db with attendance } = ended db := ended_congr fun _ => rfl
    obtain ⟨attendance', hrest⟩ := ih fun other hother => by
      rw [hsame]
      exact h other (List.mem_cons_of_mem _ hother)
    exact ⟨attendance', hrest⟩

/-- No technician has a duty that took place beside one that did not. -/
def Unmixed (s : Services) (db : DutyDb) : Prop :=
  ∀ a ∈ db.coverages, ∀ b ∈ db.coverages, isDue s a = true → isDue s b = true → a.assignedUserId.isSome = true →
    a.assignedUserId = b.assignedUserId → dutyOccurred db a = dutyOccurred db b

/-- The coverages that the end of the day leaves are those whose duty did not take place. -/
theorem due_finalizeCoverages (hdb : Sane db) (htoday : s'.today = s.today) :
    (finalizeCoverages s db).coverages.filter (isDue s') =
      (db.coverages.filter (isDue s)).filter fun coverage => !ended db coverage := by
  have hdue : isDue s' = isDue s := by
    funext row
    unfold isDue
    rw [htoday]
  have hrow (row : DutyDailyCoverage) (hmem : row ∈ db.coverages) :
      completes db (db.coverages.filter (isDue s)) row =
        if (isDue s row && ended db row) = true then { row with status := .completed } else row := by
    have hany : ((db.coverages.filter (isDue s)).any fun coverage => coverage.id = row.id && ended db coverage) =
        (isDue s row && ended db row) := by
      rw [Bool.eq_iff_iff, List.any_eq_true, Bool.and_eq_true]
      constructor
      · rintro ⟨coverage, hcoverage, hsame⟩
        obtain ⟨hcoverage, hdue⟩ := List.mem_filter.mp hcoverage
        rw [Bool.and_eq_true, decide_eq_true_eq] at hsame
        obtain rfl := hdb.keyed.eq_coverage hcoverage hmem hsame.1
        exact ⟨hdue, hsame.2⟩
      · rintro ⟨hdue, hended⟩
        exact ⟨row, List.mem_filter.mpr ⟨hmem, hdue⟩, by simp [hended]⟩
    unfold completes
    rw [hany]
  rw [(finalized_finalizeCoverages hdb).coverages, hdue, List.filter_map, List.filter_filter]
  have hfilter : db.coverages.filter (isDue s ∘ completes db (db.coverages.filter (isDue s))) =
      db.coverages.filter fun row => !ended db row && isDue s row := by
    refine List.filter_congr fun row hmem => ?_
    rw [Function.comp_apply, hrow row hmem]
    cases hdue : isDue s row with
    | false => simp [hdue]
    | true =>
      cases hended : ended db row with
      | false => simp [hdue]
      | true => simp [isDue]
  rw [hfilter]
  refine (List.map_congr_left fun row hmem => ?_).trans (List.map_id _)
  obtain ⟨hmem, hstays⟩ := List.mem_filter.mp hmem
  rw [Bool.and_eq_true, Bool.not_eq_true'] at hstays
  rw [hrow row hmem, hstays.1, Bool.and_false]
  rfl

theorem finalizeCoverages_again (hdb : Sane db) (hunmixed : Unmixed s db) (htoday : s'.today = s.today) :
    finalizeCoverages s' (finalizeCoverages s db) = finalizeCoverages s db := by
  have hfirst := finalized_finalizeCoverages (s := s) hdb
  have hsane : Sane (finalizeCoverages s db) :=
    keeps_finalizeCoverages (fun _ _ h hmem _ => h.finalizeCoverage hmem) hdb.keyed hdb
  have hsecond := finalized_finalizeCoverages (s := s') hsane
  have hitems : (finalizeCoverages s db).coverages.filter (isDue s') =
      (db.coverages.filter (isDue s)).filter fun coverage => !ended db coverage := due_finalizeCoverages hdb htoday
  have hleft : ∀ coverage ∈ (finalizeCoverages s db).coverages.filter (isDue s'),
      ended (finalizeCoverages s db) coverage = false := by
    intro coverage hmem
    rw [hitems] at hmem
    rw [ended_congr hfirst.rendering]
    simpa using (List.mem_filter.mp hmem).2
  obtain ⟨attendance, heq⟩ := foldl_left _ hleft
  rw [finalizeCoverages_eq s', heq]
  have hattendance : attendance = (finalizeCoverages s db).attendance := by
    have hafter := hsecond.attendance
    rw [finalizeCoverages_eq s', heq, takesBack_congr hfirst.rendering, hitems] at hafter
    refine hafter.trans ?_
    rw [hfirst.attendance, List.map_map]
    refine List.map_congr_left fun row _ => ?_
    rw [Function.comp_apply]
    refine foldl_again ?_
    by_cases hsome : ∃ a ∈ db.coverages.filter (isDue s),
        (takesBack db).touches a ((takesBack db).key row) = true ∧ ended db a = false
    · obtain ⟨a, ha, htouchesA, hendedA⟩ := hsome
      refine .inl fun b hb htouchesB => ?_
      have huser (c : DutyDailyCoverage) (h : (takesBack db).touches c ((takesBack db).key row) = true) :
          c.assignedUserId = some row.userId := by
        unfold takesBack at h
        simp only [Bool.and_eq_true, decide_eq_true_eq] at h
        exact h.1.2
      obtain ⟨ha, hdueA⟩ := List.mem_filter.mp ha
      obtain ⟨hb, hdueB⟩ := List.mem_filter.mp hb
      have hsame := hunmixed a ha b hb hdueA hdueB (by rw [huser a htouchesA]; rfl)
        ((huser a htouchesA).trans (huser b htouchesB).symm)
      unfold ended at hendedA ⊢
      rw [huser a htouchesA] at hendedA
      rw [huser b htouchesB, ← hsame, hendedA]
      rfl
    · refine .inr fun b hb htouchesB => ?_
      cases hended : ended db b with
      | true => rfl
      | false => exact absurd ⟨b, hb, htouchesB, hended⟩ hsome
  rw [hattendance]

/-! ## The relievers -/

theorem recordReliever_eq (reservation : DutyMeetingReservation) (createdById : Nat) (remarks : String)
    (reliever : DutyMeetingReliever) (db : DutyDb) : ∃ assignments,
      recordReliever reservation createdById remarks reliever db = { db with assignments } ∧ db.assignments <+: assignments ∧
        ∃ row ∈ assignments, row.reservationId = some reservation.id ∧ row.userId = reliever.userId := by
  unfold recordReliever
  split_ifs with hrecorded
  · obtain ⟨row, hrow, hsame⟩ := List.any_eq_true.mp hrecorded
    rw [Bool.and_eq_true, decide_eq_true_eq, decide_eq_true_eq] at hsame
    exact ⟨db.assignments, rfl, List.prefix_rfl, row, hrow, hsame⟩
  · exact ⟨_, rfl, List.prefix_append _ _, _, List.mem_append_right _ (List.mem_singleton_self _), rfl, rfl⟩

/-- The logs of the relievers whose meeting took place. -/
def recordRelievers (entries : List (DutyMeetingReservation × DutyMeetingReliever)) (db : DutyDb) : DutyDb :=
  entries.foldl (fun db entry => recordReliever entry.1 entry.2.createdById "Immediate reliever: " entry.2 db) db

theorem recordRelievers_eq (entries : List (DutyMeetingReservation × DutyMeetingReliever)) (db : DutyDb) : ∃ assignments,
    recordRelievers entries db = { db with assignments } ∧ db.assignments <+: assignments ∧
      ∀ entry ∈ entries, ∃ row ∈ assignments, row.reservationId = some entry.1.id ∧ row.userId = entry.2.userId := by
  induction entries generalizing db with
  | nil => exact ⟨db.assignments, rfl, List.prefix_rfl, fun _ hmem => absurd hmem List.not_mem_nil⟩
  | cons entry rest ih =>
    obtain ⟨first, hfirst, hgrows, row, hrow, hlog⟩ :=
      recordReliever_eq entry.1 entry.2.createdById "Immediate reliever: " entry.2 db
    obtain ⟨assignments, hrest, hgrows', hlogged⟩ := ih { db with assignments := first }
    refine ⟨assignments, ?_, hgrows.trans hgrows', fun other hother => ?_⟩
    · show recordRelievers rest (recordReliever entry.1 entry.2.createdById "Immediate reliever: " entry.2 db) = _
      rw [hfirst, hrest]
    · rcases List.mem_cons.mp hother with rfl | hother
      · exact ⟨row, hgrows'.subset hrow, hlog⟩
      · exact hlogged other hother

/-- Relievers who have their logs get no other. -/
theorem recordRelievers_logged {entries : List (DutyMeetingReservation × DutyMeetingReliever)} (h : ∀ entry ∈ entries,
    ∃ row ∈ db.assignments, row.reservationId = some entry.1.id ∧ row.userId = entry.2.userId) :
    recordRelievers entries db = db := by
  induction entries with
  | nil => rfl
  | cons entry rest ih =>
    obtain ⟨row, hrow, hmeeting, huser⟩ := h entry List.mem_cons_self
    have hfirst : recordReliever entry.1 entry.2.createdById "Immediate reliever: " entry.2 db = db := by
      refine if_pos (List.any_eq_true.mpr ⟨row, hrow, ?_⟩)
      simp [hmeeting, huser]
    show recordRelievers rest (recordReliever entry.1 entry.2.createdById "Immediate reliever: " entry.2 db) = db
    rw [hfirst]
    exact ih fun other hother => h other (List.mem_cons_of_mem _ hother)

theorem leaves_finalizeToday (h : ¬ s.currentTimeMinutes < s.officeEnd) (db : DutyDb) :
    leaves (finalizeToday s) db = finalizeCoverages s (recordRelievers (renderedRelievers s db) db) := by
  unfold finalizeToday
  rw [if_neg h]
  rfl

/-- A technician has present attendance on a date. -/
def isPresent (db : DutyDb) (userId : Nat) (date : Int) : Bool :=
  (db.attendanceOf userId date).any fun row => row.status = .present

theorem mem_renderedRelievers {entry : DutyMeetingReservation × DutyMeetingReliever} : entry ∈ renderedRelievers s db ↔
    entry.1 ∈ db.reservations ∧ entry.1.meetingDate = s.today ∧ isRendered entry.1.status = true ∧
      entry.2 ∈ db.relieversOf entry.1.id ∧ isPresent db entry.2.userId s.today = true ∧
      hasTickets s entry.2.userId = false := by
  obtain ⟨reservation, reliever⟩ := entry
  unfold renderedRelievers isPresent
  simp only [List.mem_flatMap, List.mem_map, List.mem_filter, Bool.and_eq_true, decide_eq_true_eq, Bool.not_eq_true',
    Prod.mk.injEq]
  constructor
  · rintro ⟨other, ⟨hmem, hdate, hrendered⟩, reliever', ⟨hreliever, hpresent, htickets⟩, rfl, rfl⟩
    exact ⟨hmem, hdate, hrendered, hreliever, hpresent, htickets⟩
  · rintro ⟨hmem, hdate, hrendered, hreliever, hpresent, htickets⟩
    exact ⟨reservation, ⟨hmem, hdate, hrendered⟩, reliever, ⟨hreliever, hpresent, htickets⟩, rfl, rfl⟩

/-- A reliever who is away, without tickets and without a log, has no duty that the end of the day looks at; and no
technician has a duty that took place beside one that did not. -/
structure EndsOnce (s : Services) (db : DutyDb) : Prop where
  relievers : ∀ meeting ∈ db.reservations, meeting.meetingDate = s.today → isRendered meeting.status = true →
    ∀ reliever ∈ db.relieversOf meeting.id, hasTickets s reliever.userId = false →
    isPresent db reliever.userId s.today = false → meetingLogs db meeting.id reliever.userId = [] →
    ∀ coverage ∈ db.coverages, isDue s coverage = true → coverage.assignedUserId ≠ some reliever.userId
  technicians : Unmixed s db

theorem attendanceOf_map {f : TechAttendance → TechAttendance} (hf : ∀ row, (f row).userId = row.userId ∧ (f row).date = row.date)
    (h : db'.attendance = db.attendance.map f) (userId : Nat) (date : Int) :
    db'.attendanceOf userId date = (db.attendanceOf userId date).map f := by
  unfold DutyDb.attendanceOf
  rw [h, List.find?_map]
  congr 2
  funext row
  rw [Function.comp_apply, (hf row).1, (hf row).2]

/-- Who is present only after the end of the day had a duty that it looked at. -/
theorem duty_of_present {items : List DutyDailyCoverage} (h : Finalized db items db') {userId : Nat} {date : Int}
    (hafter : isPresent db' userId date = true) (hbefore : isPresent db userId date = false) :
    ∃ coverage ∈ items, coverage.assignedUserId = some userId := by
  have hkeys (row : TechAttendance) : (items.foldl (takesBack db).write row).userId = row.userId ∧
      (items.foldl (takesBack db).write row).date = row.date := by
    have hkey := foldl_key (o := takesBack db) items row
    exact ⟨congrArg Prod.fst hkey, congrArg (fun key => key.2.1) hkey⟩
  unfold isPresent at hafter hbefore
  rw [attendanceOf_map hkeys h.attendance] at hafter
  cases hrow : db.attendanceOf userId date with
  | none =>
    rw [hrow] at hafter
    cases hafter
  | some row =>
    rw [hrow, Option.map_some, Option.any_some] at hafter
    rw [hrow, Option.any_some] at hbefore
    have huser : row.userId = userId := by
      unfold DutyDb.attendanceOf at hrow
      exact (of_decide_eq_true (List.find?_some hrow :)).1
    by_contra hnone
    have hsame : items.foldl (takesBack db).write row = row := by
      refine foldl_untouched fun coverage hmem => Bool.eq_false_iff.mpr fun htouches => hnone ⟨coverage, hmem, ?_⟩
      unfold takesBack at htouches
      simp only [Bool.and_eq_true, decide_eq_true_eq] at htouches
      rw [← huser]
      exact htouches.1.2
    rw [hsame, hbefore] at hafter
    cases hafter

theorem rendering_of_mem (hdb : Keyed db) {meeting : DutyMeetingReservation} (hmem : meeting ∈ db.reservations) :
    rendering db meeting.id = some (meeting.meetingDate, isRendered meeting.status) := by
  unfold rendering
  rw [reservation?_of_mem hdb hmem]
  rfl

theorem recordCompletedCoverage_grows (coverage : DutyDailyCoverage) (db : DutyDb) :
    db.assignments <+: (recordCompletedCoverage coverage db).assignments := by
  unfold recordCompletedCoverage
  split
  · exact List.prefix_rfl
  · split_ifs
    · exact List.prefix_rfl
    · exact List.prefix_append _ _

theorem restoreAttendance_assignments (coverage : DutyDailyCoverage) (db : DutyDb) :
    (restoreAttendance coverage db).assignments = db.assignments :=
  (sameLogs_restoreAttendance coverage db).assignments

theorem finalizeCoverage_grows (coverage : DutyDailyCoverage) (db : DutyDb) :
    db.assignments <+: (finalizeCoverage db coverage).assignments := by
  unfold finalizeCoverage
  split_ifs
  · rw [restoreAttendance_assignments, completeMeeting_assignments]
    exact recordCompletedCoverage_grows coverage db
  · exact List.prefix_rfl
  · simp only [restoreAttendance_assignments, List.prefix_rfl]

theorem foldl_grows (items : List DutyDailyCoverage) (db : DutyDb) :
    db.assignments <+: (items.foldl finalizeCoverage db).assignments := by
  induction items generalizing db with
  | nil => exact List.prefix_rfl
  | cons coverage rest ih => exact (finalizeCoverage_grows coverage db).trans (ih _)

/-- **The end of the day once more**, with the same tickets, changes nothing where the day ends once. -/
theorem finalizeToday_again (hdb : Sane db) (h : EndsOnce s db) (hend : ¬ s.currentTimeMinutes < s.officeEnd)
    (htoday : s'.today = s.today) (htickets : hasTickets s' = hasTickets s) :
    leaves (finalizeToday s') (leaves (finalizeToday s) db) = leaves (finalizeToday s) db := by
  by_cases hearly : s'.currentTimeMinutes < s'.officeEnd
  · generalize leaves (finalizeToday s) db = after
    unfold finalizeToday
    rw [if_pos hearly]
    rfl
  obtain ⟨assignments, hlogs, hgrows, hlogged⟩ := recordRelievers_eq (renderedRelievers s db) db
  have hsane : Sane { db with assignments } :=
    ⟨hdb.keyed.write (.logs assignments db.exceptions db.nextId le_rfl), hdb.regular⟩
  have hfinal : Finalized { db with assignments } (db.coverages.filter (isDue s))
      (finalizeCoverages s { db with assignments }) := finalized_finalizeCoverages hsane
  have hended : Sane (finalizeCoverages s { db with assignments }) :=
    keeps_finalizeCoverages (fun _ _ h hmem _ => h.finalizeCoverage hmem) hsane.keyed hsane
  rw [leaves_finalizeToday hend, leaves_finalizeToday hearly, hlogs, recordRelievers_logged]
  · exact finalizeCoverages_again hsane h.technicians htoday
  · rintro ⟨meeting, reliever⟩ hentry
    obtain ⟨hmem, hdate, hrendered, hreliever, hpresent, hfree⟩ := mem_renderedRelievers.mp hentry
    dsimp only at *
    rw [htoday] at hdate hpresent
    rw [htickets] at hfree
    -- the meeting took place before
    have hrow : rendering db meeting.id = some (s.today, true) := by
      refine (hfinal.rendering meeting.id).symm.trans ?_
      rw [rendering_of_mem hended.keyed hmem, hdate, hrendered]
    obtain ⟨old, hold, hboth⟩ := Option.map_eq_some_iff.mp hrow
    obtain ⟨holdMem, hid⟩ := reservation?_eq_some hold
    rw [Prod.mk.injEq] at hboth
    have holdReliever : reliever ∈ db.relieversOf old.id := by
      unfold DutyDb.relieversOf at hreliever ⊢
      rw [hfinal.relievers] at hreliever
      rw [hid]
      exact hreliever
    have hgrows' : assignments <+: (finalizeCoverages s { db with assignments }).assignments :=
      foldl_grows (db.coverages.filter (isDue s)) { db with assignments }
    cases hbefore : isPresent db reliever.userId s.today with
    | true =>
      have hcounted : (old, reliever) ∈ renderedRelievers s db :=
        mem_renderedRelievers.mpr ⟨holdMem, hboth.1, hboth.2, holdReliever, hbefore, hfree⟩
      obtain ⟨row, hrow, hmeeting, huser⟩ := hlogged _ hcounted
      exact ⟨row, hgrows'.subset hrow, hmeeting.trans (congrArg some hid), huser⟩
    | false =>
      obtain ⟨coverage, hcoverage, huser⟩ := duty_of_present hfinal hpresent hbefore
      obtain ⟨hcoverage, hdue⟩ := List.mem_filter.mp hcoverage
      by_cases hnone : meetingLogs db old.id reliever.userId = []
      · exact absurd huser
          (h.relievers old holdMem hboth.1 hboth.2 reliever holdReliever hfree hbefore hnone coverage hcoverage hdue)
      · obtain ⟨row, hrow⟩ := List.exists_mem_of_ne_nil _ hnone
        obtain ⟨hrow, hlog⟩ := List.mem_filter.mp hrow
        rw [Bool.and_eq_true, decide_eq_true_eq, decide_eq_true_eq] at hlog
        exact ⟨row, hgrows'.subset (hgrows.subset hrow), hlog.1.trans (congrArg some hid), hlog.2⟩

end ComplianceHub.Duty
