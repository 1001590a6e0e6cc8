import ComplianceHub.Duty.LiveMeeting
import Mathlib.Order.CompletePartialOrder
import Mathlib.Order.Interval.Set.Disjoint

/-!
# The meetings of a venue

* `clock` : the seconds of the day that a meeting takes; `Spread` : two meetings of a venue and date that are not
  cancelled take different seconds, and neither takes the whole day;
* `RunsOver` : a meeting of the morning ends some seconds after noon, and one of the afternoon starts before. The slots
  of a day are told apart by the minute, which lets both through;
* `ApartAtNoon` : no meeting is saved over noon beside such another one;
* `meetings_do_not_overlap` : the meetings are spread after every run whose steps meet the condition.
-/

namespace ComplianceHub.Duty

open ComplianceHub.Lib

/-! ## The time that a meeting takes -/

/-- The seconds of the day, all of them without times. -/
def clock (row : DutyMeetingReservation) : Set Nat :=
  match row.times.range with
  | none => Set.Ico 0 86400
  | some (start, finish) => Set.Ico start.toSeconds finish.toSeconds

theorem clock_eq {row : DutyMeetingReservation} {start finish : ClockTime} (h : row.times.range = some (start, finish)) :
    clock row = Set.Ico start.toSeconds finish.toSeconds := by
  unfold clock
  rw [h]

/-- Two different meetings of a venue and date that are not cancelled. -/
structure ShareDay (a b : DutyMeetingReservation) : Prop where
  different : a.id ≠ b.id
  kept : a.status ≠ .cancelled ∧ b.status ≠ .cancelled
  venue : a.venueType = b.venueType
  date : a.meetingDate = b.meetingDate

theorem ShareDay.symm {a b : DutyMeetingReservation} (h : ShareDay a b) : ShareDay b a :=
  ⟨h.different.symm, h.kept.symm, h.venue.symm, h.date.symm⟩

/-- Two meetings that take different seconds, neither of them the whole day. -/
structure Separate (a b : DutyMeetingReservation) : Prop where
  clocks : Disjoint (clock a) (clock b)
  timed : a.times.range.isSome = true ∧ b.times.range.isSome = true

theorem Separate.symm {a b : DutyMeetingReservation} (h : Separate a b) : Separate b a :=
  ⟨h.clocks.symm, h.timed.symm⟩

def Spread (db : DutyDb) : Prop :=
  ∀ a ∈ db.reservations, ∀ b ∈ db.reservations, ShareDay a b → Separate a b

/-- A meeting of the morning that ends after noon, and one of the afternoon that starts before that end. -/
def RunsOver (morning afternoon : ClockTime × ClockTime) : Prop :=
  morning.1.toMinutes < 12 * 60 ∧ morning.2.toMinutes = 12 * 60 ∧ afternoon.1.toMinutes = 12 * 60 ∧
    afternoon.1.seconds < morning.2.seconds

/-- The slot of a meeting: the whole day without times, the morning up to noon, or the afternoon. -/
theorem MeetingTimes.slot_cases (times : MeetingTimes) : (times.range = none ∧ times.period = .WHOLE_DAY) ∨
    ∃ start finish, times.range = some (start, finish) ∧
      (times.period = .AM ∧ start.toMinutes < 12 * 60 ∧ finish.toMinutes ≤ 12 * 60 ∨
        times.period = .PM ∧ 12 * 60 ≤ start.toMinutes) := by
  obtain ⟨range, period, hslot⟩ := times
  unfold meetingSlot at hslot
  split at hslot
  · exact .inl ⟨rfl, (Except.ok.inj hslot).symm⟩
  · rename_i start finish
    dsimp only at hslot
    refine .inr ⟨start, finish, rfl, ?_⟩
    split_ifs at hslot with _ hmorning hafternoon
    · exact .inl ⟨(Except.ok.inj hslot).symm, hmorning⟩
    · exact .inr ⟨(Except.ok.inj hslot).symm, hafternoon.1⟩

theorem toSeconds_eq (t : ClockTime) : t.toSeconds = t.toMinutes * 60 + t.seconds.val := by
  unfold ClockTime.toSeconds ClockTime.toMinutes
  omega

/-- A morning and an afternoon are apart, unless the morning runs over. -/
theorem morning_before_afternoon (morning afternoon : ClockTime × ClockTime) (hnoon : ¬ RunsOver morning afternoon)
    (hmorning : morning.1.toMinutes < 12 * 60 ∧ morning.2.toMinutes ≤ 12 * 60)
    (hafternoon : 12 * 60 ≤ afternoon.1.toMinutes) : morning.2.toSeconds ≤ afternoon.1.toSeconds := by
  rw [toSeconds_eq, toSeconds_eq]
  have hseconds := morning.2.seconds.isLt
  by_cases hboth : morning.2.toMinutes = 12 * 60 ∧ afternoon.1.toMinutes = 12 * 60
  · have hle : ¬ afternoon.1.seconds < morning.2.seconds := fun hlt => hnoon ⟨hmorning.1, hboth.1, hboth.2, hlt⟩
    rw [Fin.lt_def] at hle
    omega
  · omega

theorem disjoint_of_le {a b c d : Nat} (h : b ≤ c) : Disjoint (Set.Ico a b) (Set.Ico c d) := by
  rw [Set.Ico_disjoint_Ico]
  omega

/-- Meetings in different slots are separate, but for one that runs over noon. -/
theorem separate_of_slots {a b : DutyMeetingReservation} (hslots : periodsOverlap a.period b.period = false)
    (hnoon : ∀ range other, a.times.range = some range → b.times.range = some other →
      ¬ RunsOver range other ∧ ¬ RunsOver other range) : Separate a b := by
  unfold DutyMeetingReservation.period at hslots
  rcases a.times.slot_cases with ⟨-, hwhole⟩ | ⟨start, finish, hrange, hslot⟩
  · rw [hwhole] at hslots
    cases hslots
  rcases b.times.slot_cases with ⟨-, hwhole'⟩ | ⟨start', finish', hrange', hslot'⟩
  · rw [hwhole'] at hslots
    simp [periodsOverlap] at hslots
  obtain ⟨hover, hover'⟩ := hnoon _ _ hrange hrange'
  refine ⟨?_, by rw [hrange]; rfl, by rw [hrange']; rfl⟩
  rw [clock_eq hrange, clock_eq hrange']
  rcases hslot with ⟨hperiod, hmorning⟩ | ⟨hperiod, hafternoon⟩ <;>
    rcases hslot' with ⟨hperiod', hmorning'⟩ | ⟨hperiod', hafternoon'⟩
  · rw [hperiod, hperiod'] at hslots
    cases hslots
  · exact disjoint_of_le (morning_before_afternoon (start, finish) (start', finish') hover hmorning hafternoon')
  · exact (disjoint_of_le
      (morning_before_afternoon (start', finish') (start, finish) hover' hmorning' hafternoon)).symm
  · rw [hperiod, hperiod'] at hslots
    cases hslots

/-! ## What is asked for -/

variable {s : Services} {db db' : DutyDb} {op : Operation} {actor : Actor} {body : ReservationBody}

/-- Two times as they are written. -/
def rangeOf (startTime endTime : Option String) : Option (ClockTime × ClockTime) := do
  let start ← parseClock (← startTime)
  let finish ← parseClock (← endTime)
  pure (start, finish)

/-- The times of a body, over those that are stored. -/
def requestedRange (body : ReservationBody) (existing : Option DutyMeetingReservation) : Option (ClockTime × ClockTime) :=
  rangeOf (body.startTime.getD (existing.bind DutyMeetingReservation.startText))
    (body.endTime.getD (existing.bind DutyMeetingReservation.endText))

/-- A body asks for the venue and the date of a meeting. -/
structure AsksFor (body : ReservationBody) (existing : Option DutyMeetingReservation) (other : DutyMeetingReservation) :
    Prop where
  venue : (body.venueType.join <|> existing.map DutyMeetingReservation.venueType) = some other.venueType
  date : (body.meetingDate.join <|> existing.map DutyMeetingReservation.meetingDate) = some other.meetingDate
  different : some other.id ≠ existing.map DutyMeetingReservation.id
  kept : (body.status.join <|> existing.map DutyMeetingReservation.status) ≠ some .cancelled ∧ other.status ≠ .cancelled

/-- No times that are saved run over noon into those of another meeting, nor the other way round. -/
def ApartAtNoon (db : DutyDb) : Event → Prop
  | .operation _ (.saveReservation _ body id) => ∀ other ∈ db.reservations, AsksFor body (id.bind db.reservation?) other →
      ∀ range otherRange, requestedRange body (id.bind db.reservation?) = some range →
        other.times.range = some otherRange → ¬ RunsOver range otherRange ∧ ¬ RunsOver otherRange range
  | _ => True

theorem range_of_slotted {range : Option (ClockTime × ClockTime)} {times : MeetingTimes} (h : slotted range = .ok times) :
    times.range = range := by
  unfold slotted at h
  split at h
  · cases h
    rfl
  · cases h

theorem range_of_meetingTimes {startTime endTime : Option String} {times : MeetingTimes}
    (h : meetingTimes startTime endTime = .ok times) : times.range = rangeOf startTime endTime := by
  unfold meetingTimes at h
  split at h
  · exact range_of_slotted h
  · rename_i startTime endTime
    split_ifs at h
    split at h
    · rename_i start finish hstart hfinish
      split_ifs at h
      rw [range_of_slotted h]
      show some (start, finish) = (parseClock startTime).bind fun start => (parseClock endTime).bind fun finish => some (start, finish)
      rw [hstart, hfinish]
      rfl
    · cases h
  · cases h

/-- A meeting that is saved is in another slot than each other one of its venue and date. -/
theorem scheduledMeeting_slots {existing : Option DutyMeetingReservation} {row : DutyMeetingReservation}
    (h : scheduledMeeting s db actor body existing = .ok row) : row.times.range = requestedRange body existing ∧
      row.id = (existing.map DutyMeetingReservation.id).getD db.nextId ∧
      ∀ other ∈ db.reservations, some other.id ≠ existing.map DutyMeetingReservation.id → row.status ≠ .cancelled →
        other.status ≠ .cancelled → row.venueType = other.venueType → row.meetingDate = other.meetingDate →
        AsksFor body existing other ∧ periodsOverlap row.period other.period = false := by
  unfold scheduledMeeting at h
  obtain ⟨venueType, hvenue, h⟩ := bind_eq_ok.mp h
  split at h
  · cases h
  rename_i meetingDate hdate
  obtain ⟨_, -, h⟩ := bind_eq_ok.mp h
  obtain ⟨_, -, h⟩ := bind_eq_ok.mp h
  obtain ⟨times, htimes, h⟩ := bind_eq_ok.mp h
  obtain ⟨_, hconflict, h⟩ := bind_eq_ok.mp h
  cases h
  refine ⟨range_of_meetingTimes htimes, rfl, fun other hother hid hkept hkept' hvenue' hdate' => ⟨⟨?_, ?_, hid, ?_, hkept'⟩, ?_⟩⟩
  · rw [← hvenue']
    unfold assertVenue at hvenue
    split at hvenue
    · cases hvenue
    · rename_i htype
      cases hvenue
      exact htype
    · cases hvenue
  · rw [← hdate']
    exact hdate
  · intro hcancelled
    refine hkept ?_
    show Option.getD _ _ = _
    rw [hcancelled]
    rfl
  · have hnone := List.find?_eq_none.mp (Option.isNone_iff_eq_none.mp (check_eq_ok.mp hconflict)) other hother
    dsimp only at hvenue' hdate'
    simpa [hvenue', hdate', hid, hkept', DutyMeetingReservation.period] using hnone

/-- What is scheduled is the stored meeting of the call, or a new one. -/
theorem meetingWrite_schedule {id : Option Nat} {existing : Option DutyMeetingReservation} {row : DutyMeetingReservation}
    (h : meetingWrite s db actor body id = .ok (.schedule existing row)) :
    existing = id.bind db.reservation? ∧ scheduledMeeting s db actor body existing = .ok row := by
  unfold meetingWrite at h
  obtain ⟨_, -, h⟩ := bind_eq_ok.mp h
  split at h
  · obtain ⟨row', hrow, hsame⟩ := map_eq_ok.mp h
    cases hsame
    exact ⟨rfl, hrow⟩
  · rename_i id
    obtain ⟨found, hfound, h⟩ := bind_eq_ok.mp h
    obtain ⟨_, -, h⟩ := bind_eq_ok.mp h
    split_ifs at h
    · cases h
    · obtain ⟨row', hrow, hsame⟩ := map_eq_ok.mp h
      cases hsame
      exact ⟨(orNotFound_eq_ok hfound).symm, hrow⟩

/-! ## Writes -/

theorem Spread.of_eq (h : Spread db) (hsame : db'.reservations = db.reservations) : Spread db' := by
  intro a ha b hb
  rw [hsame] at ha hb
  exact h a ha b hb

/-- One meeting is written, separate from the others of its day. -/
theorem Spread.put (h : Spread db) {row : DutyMeetingReservation}
    (hrows : ∀ a ∈ db'.reservations, a = row ∨ a ∈ db.reservations ∧ a.id ≠ row.id)
    (hrow : ∀ b ∈ db.reservations, ShareDay row b → Separate row b) : Spread db' := by
  intro a ha b hb hshare
  rcases hrows a ha with rfl | ⟨ha, hother⟩
  · rcases hrows b hb with rfl | ⟨hb, -⟩
    · exact absurd rfl hshare.different
    · exact hrow b hb hshare
  · rcases hrows b hb with rfl | ⟨hb, -⟩
    · exact (hrow a ha hshare.symm).symm
    · exact h a ha b hb hshare

/-- A meeting keeps its place. -/
structure Stays (row old : DutyMeetingReservation) : Prop where
  id : old.id = row.id
  times : old.times = row.times
  venue : old.venueType = row.venueType
  date : old.meetingDate = row.meetingDate
  kept : row.status ≠ .cancelled → old.status ≠ .cancelled

theorem Spread.saveReservation (h : Spread db) {row old : DutyMeetingReservation} (hold : old ∈ db.reservations)
    (hstays : Stays row old) : Spread (db.saveReservation row) := by
  refine h.put (fun a ha => (mem_saveReservation ha).imp And.left id) fun b hb hshare => ?_
  obtain ⟨hdifferent, ⟨hkept, hkept'⟩, hvenue, hdate⟩ := hshare
  have hold : Separate old b := by
    apply h old hold b hb
    refine ⟨?_, ⟨hstays.kept hkept, hkept'⟩, hstays.venue.trans hvenue, hstays.date.trans hdate⟩
    rw [hstays.id]
    exact hdifferent
  have hclock : clock row = clock old := by
    unfold clock
    rw [hstays.times]
  refine ⟨?_, ?_, hold.timed.2⟩
  · rw [hclock]
    exact hold.clocks
  · rw [← hstays.times]
    exact hold.timed.1

theorem Spread.completeMeeting (h : Spread db) (reservationId : Option Nat) : Spread (completeMeeting reservationId db) := by
  unfold Duty.completeMeeting
  split
  · exact h
  · rename_i reservation hfound
    obtain ⟨hfound, hkept⟩ := Option.filter_eq_some_iff.mp hfound
    obtain ⟨id, -, hstored⟩ := Option.bind_eq_some_iff.mp hfound
    exact h.saveReservation (reservation?_eq_some hstored).1 ⟨rfl, rfl, rfl, rfl, fun _ => of_decide_eq_true hkept⟩

theorem Spread.finalizeCoverage (hdb : Sane db) (h : Spread db) {coverage : DutyDailyCoverage}
    (hmem : coverage ∈ db.coverages) : Spread (finalizeCoverage db coverage) := by
  rcases finalizeCoverage_cases hmem with hwrites | ⟨db', hwrites, -, heq⟩
  · exact h.of_eq (hdb.writes hwrites).2.reservations
  · rw [heq]
    exact (h.of_eq (hdb.writes hwrites).2.reservations).completeMeeting _

theorem Spread.schedules (hdb : Sane db) (h : Spread db) {id : Option Nat} {existing : Option DutyMeetingReservation}
    {row : DutyMeetingReservation} (hread : meetingWrite s db actor body id = .ok (.schedule existing row))
    (hnoon : ApartAtNoon db (.operation s (.saveReservation actor body id))) : Spread (putMeeting existing row db) := by
  obtain ⟨hexisting, hrow⟩ := meetingWrite_schedule hread
  obtain ⟨hrange, hid, hslots⟩ := scheduledMeeting_slots hrow
  have hseparate : ∀ b ∈ db.reservations, ShareDay row b → Separate row b := by
    intro b hb hshare
    have hdifferent : some b.id ≠ existing.map DutyMeetingReservation.id := by
      intro hsame
      refine hshare.different ?_
      rw [hid, ← hsame]
      rfl
    obtain ⟨hasks, hslot⟩ := hslots b hb hdifferent hshare.kept.1 hshare.kept.2 hshare.venue hshare.date
    rw [hexisting] at hasks hrange
    refine separate_of_slots hslot fun range other hown hother => hnoon b hb hasks range other ?_ hother
    exact hrange.symm.trans hown
  refine h.put (fun a ha => ?_) hseparate
  unfold putMeeting at ha
  split at ha
  · rcases List.mem_append.mp ha with ha | ha
    · refine .inr ⟨ha, fun hsame => ?_⟩
      have hlt := hdb.keyed.reservationBelow a ha
      have hnew : row.id = db.nextId := hid
      omega
    · exact .inl (List.mem_singleton.mp ha)
  · split_ifs at ha
    · exact (mem_saveReservation ha).imp And.left fun h => h
    · have hmem : a ∈ (db.saveReservation row).reservations := ha
      exact (mem_saveReservation hmem).imp And.left fun h => h

/-! ## Operations -/

theorem Spread.change (hdb : Sane db) (h : Spread db) (hchange : Change s db op db') (hnoon : ApartAtNoon db (.operation s op)) :
    Spread db' := by
  cases hchange with
  | beside => exact h
  | activates _ => exact h
  | releases hread _ =>
    exact (h.of_eq (hdb.writes (writes_releases hread)).2.reservations).completeMeeting _
  | @reinstates _ _ coverage db' _ _ hwrites =>
    refine h.of_eq ?_
    obtain ⟨attendance, hattended⟩ := attendDuty_eq coverage db'
    unfold reinstate
    rw [hattended]
    exact (hdb.writes hwrites).2.reservations
  | @completes actor id reservation hread =>
    obtain ⟨hmem, -, hopen⟩ := completable_eq_ok hread
    have hbeside := (hdb.writes (writes_recordRelievers reservation actor.id "Immediate reliever duty completed: "
      (db.relieversOf reservation.id) db)).2
    have hstays : Stays { reservation with status := .completed } reservation := by
      refine ⟨rfl, rfl, rfl, rfl, fun _ hcancelled => ?_⟩
      unfold DutyMeetingReservation.isOpen isOpenStatus at hopen
      rw [hcancelled] at hopen
      cases hopen
    refine (h.of_eq hbeside.reservations).saveReservation ?_ hstays
    rw [hbeside.reservations]
    exact hmem
  | corrects hread =>
    rcases meetingWrite_eq_ok hread with ⟨existing, hmem, hwrite⟩ | ⟨_, hwrite, -⟩ | ⟨_, _, hwrite, -, -⟩
    · cases hwrite
      exact h.saveReservation hmem ⟨rfl, rfl, rfl, rfl, fun hkept => hkept⟩
    · cases hwrite
    · cases hwrite
  | schedules hread => exact h.schedules hdb hread hnoon
  | @deletes _ _ found _ =>
    unfold deleteMeeting
    split
    · exact h
    · exact fun a ha b hb => h a (List.mem_filter.mp ha).1 b (List.mem_filter.mp hb).1
  | relieves _ => exact h
  | clears _ => exact h
  | finalizes hwrites =>
    obtain ⟨hsane, hbeside⟩ := hdb.writes hwrites
    refine (keeps_finalizeCoverages (I := fun db => Sane db ∧ Spread db) (fun db coverage h hmem _ => ?_) hsane.keyed
      ⟨hsane, h.of_eq hbeside.reservations⟩).2
    exact ⟨h.1.finalizeCoverage hmem, h.2.finalizeCoverage h.1 hmem⟩

theorem Spread.step {e : Event} (hdb : Sane db) (h : Spread db) (hstep : DutyStep db e db') (hnoon : ApartAtNoon db e) :
    Spread db' := by
  cases hstep with
  | attendance _ => exact h
  | operation s op =>
    obtain ⟨db', hchange, hwrites⟩ := op.reaches s db
    exact (h.change hdb hchange hnoon).of_eq ((hdb.change hchange).writes hwrites).2.reservations

/-- The runs from tables without meetings. -/
def schedules : System DutyDb Event where
  init db := duties.init db ∧ db.reservations = []
  step := DutyStep

/-- **Meetings of one venue never overlap** after every run that saves no meeting over noon beside another one. -/
theorem meetings_do_not_overlap {history : List (Transition DutyDb Event)} (h : Run schedules history db)
    (hnoon : ∀ e ∈ history, ApartAtNoon e.before e.label) : Spread db := by
  refine (Run.always (I := fun db => Sane db ∧ Spread db) ?_
    (fun a e b h hstep hnoon => ⟨h.1.step hstep, h.2.step h.1 hstep hnoon⟩) h hnoon).2
  rintro db ⟨⟨hsane, -⟩, hnone⟩
  refine ⟨hsane, fun a ha => ?_⟩
  rw [hnone] at ha
  cases ha

/-! ## A morning of twelve hours and a half minute -/

/-- A meeting that is scheduled. -/
def rocSchedule (startTime endTime : String) : Operation :=
  .saveReservation dutyAdministrator
    { venueType := some (some .ROC)
      meetingDate := some (some 5)
      startTime := some (some startTime)
      endTime := some (some endTime) } none

theorem run_schedules : Run schedules [] {} := by
  refine .init ⟨⟨⟨⟨?_, ?_, ?_, ?_, ?_, ?_, ?_⟩, ?_⟩, rfl⟩, rfl⟩
  all_goals first | exact List.nodup_nil | exact fun _ hmem => absurd hmem List.not_mem_nil

instance (range other : ClockTime × ClockTime) : Decidable (RunsOver range other) := by
  unfold RunsOver
  infer_instance

/-- The morning may end in the minute of noon where the afternoon starts later. -/
theorem meetings_do_not_overlap_twice :
    (after nineOClock {} [rocSchedule "11:00" "12:00:30", rocSchedule "13:00" "15:00"]).reservations.length = 2 ∧
      Spread (after nineOClock {} [rocSchedule "11:00" "12:00:30", rocSchedule "13:00" "15:00"]) := by
  have hfirst : ∀ other ∈ ({} : DutyDb).reservations, False := fun _ hmem => absurd hmem List.not_mem_nil
  have hsecond : ∀ other ∈ (after nineOClock {} [rocSchedule "11:00" "12:00:30"]).reservations,
      ∀ range ∈ rangeOf (some "13:00") (some "15:00"), ∀ otherRange ∈ other.times.range,
        ¬ RunsOver range otherRange ∧ ¬ RunsOver otherRange range := by
    decide +kernel
  have hnoon : Throughout nineOClock ApartAtNoon {} [rocSchedule "11:00" "12:00:30", rocSchedule "13:00" "15:00"] :=
    ⟨fun other hmem => absurd hmem (hfirst other),
      fun other hmem _ range otherRange hrange hother => hsecond other hmem range hrange otherRange hother, trivial⟩
  obtain ⟨history, hrun, hnoon⟩ := run_operations_of (S := schedules) (fun _ _ _ hstep => hstep)
    [rocSchedule "11:00" "12:00:30", rocSchedule "13:00" "15:00"] run_schedules (fun _ he => absurd he List.not_mem_nil) hnoon
  exact ⟨by decide +kernel, meetings_do_not_overlap hrun hnoon⟩

/-- The afternoon starts at noon, half a minute before the morning ends. -/
theorem half_a_minute_past_noon : ¬ ∀ (history : List (Transition DutyDb Event)) (db : DutyDb),
    Run schedules history db → Spread db := by
  intro hall
  obtain ⟨history, hrun, -⟩ := run_operations_of (S := schedules) (P := fun _ _ => True) (s := nineOClock)
    (fun _ _ _ hstep => hstep) [rocSchedule "11:00" "12:00:30", rocSchedule "12:00" "13:00"] run_schedules
    (fun _ _ => trivial) ⟨trivial, trivial, trivial⟩
  have hboth : ∃ a ∈ (after nineOClock {} [rocSchedule "11:00" "12:00:30", rocSchedule "12:00" "13:00"]).reservations,
      ∃ b ∈ (after nineOClock {} [rocSchedule "11:00" "12:00:30", rocSchedule "12:00" "13:00"]).reservations,
        (a.id ≠ b.id ∧ (a.status ≠ .cancelled ∧ b.status ≠ .cancelled) ∧ a.venueType = b.venueType ∧
          a.meetingDate = b.meetingDate) ∧
        a.times.range = some (⟨11, 0, 0⟩, ⟨12, 0, 30⟩) ∧ b.times.range = some (⟨12, 0, 0⟩, ⟨13, 0, 0⟩) := by
    decide +kernel
  obtain ⟨a, ha, b, hb, ⟨hdifferent, hkept, hvenue, hdate⟩, hrange, hrange'⟩ := hboth
  have hdisjoint := (hall history _ hrun a ha b hb ⟨hdifferent, hkept, hvenue, hdate⟩).clocks
  rw [clock_eq hrange, clock_eq hrange', Set.disjoint_left] at hdisjoint
  exact hdisjoint (a := 43200) ⟨by decide, by decide⟩ ⟨by decide, by decide⟩

end ComplianceHub.Duty
