import ComplianceHub.Duty.Operations
import ComplianceHub.Lib.Carries
import ComplianceHub.Lib.Rows
import Mathlib.Data.List.Sort
import Mathlib.Data.List.TakeWhile

/-!
# The shared roster

* `replaceRoster` : every member is set inactive, and then the selected technicians are saved one by one;
* `Legacy` : a technician whose row is of another duty than OD, which is not found and stands in the way of a new one;
* `Saving` : the active members after some of the technicians were saved (`saveMember_spec`, `saveMembers_spec`);
* `roster_is_replaced_as_a_whole` : all or nothing, exactly where no selected technician is a legacy member or those
  saved before the first one were the roster.
-/

namespace ComplianceHub.Duty

open ComplianceHub.Lib

/-! ## The operation -/

structure RosterDb where
  /-- `duty_roster_memberships`, by the order and age of its rows. -/
  memberships : List DutyRosterMembership
  /-- `od_override_enabled` of row 1 of `ticketing_configs`, if there is one. -/
  odOverrideEnabled : Option Bool
deriving DecidableEq, Repr

abbrev RosterM := EStateM HttpException RosterDb

/-- What an operation reads, with the roster as it is. -/
def Services.withRoster (s : Services) (db : RosterDb) : Services :=
  { s with roster := db.memberships, odOverrideEnabled := db.odOverrideEnabled.any id }

structure RosterSelection where
  userIds : List Nat
  odOnlyUserIds : List Nat
  odOverrideEnabled : Bool

/-- What passes the checks of `replaceRoster`. -/
def selectable (s : Services) (db : RosterDb) (actor : Actor) (userIds : List Nat) (odOnlyUserIds : Option (List Nat))
    (odOverrideEnabled : Option Bool) : Except HttpException RosterSelection := do
  s.assertAdmin actor
  let selectedUserIds := (userIds.filter fun id => decide (0 < id)).eraseDups
  let existingMembers := (s.withRoster db).sharedRosterMembers
  let selectedOdOnlyIds := ((odOnlyUserIds.getD ((existingMembers.filter fun member => member.odOnly).map
    DutyRosterMembership.userId)).filter fun id => decide (0 < id)).eraseDups
  check (∀ id ∈ selectedOdOnlyIds, id ∈ selectedUserIds)
    (.badRequest "Every OD-only technician must also be included in the shared duty roster.")
  let nextOverrideEnabled := odOverrideEnabled.getD (s.withRoster db).odOverrideEnabled
  check (¬ (nextOverrideEnabled = true ∧ selectedOdOnlyIds = []))
    (.badRequest "Select at least one OD-only technician before enabling OD Override.")
  check (¬ (nextOverrideEnabled = true ∧ ∀ id ∈ selectedUserIds, id ∈ selectedOdOnlyIds))
    (.badRequest "Select at least one non-OD technician for ROC, Conference, and OpCen duties.")
  check (∀ id ∈ selectedUserIds, id ∈ s.usersById)
    (.badRequest "Only active duty staff can be added to a Duty roster.")
  pure { userIds := selectedUserIds, odOnlyUserIds := selectedOdOnlyIds, odOverrideEnabled := nextOverrideEnabled }

/-- The row of a selected technician. -/
def memberRow (odOnlyUserIds : List Nat) (entry : Nat × Nat) : DutyRosterMembership where
  userId := entry.1
  dutyType := .OD
  sortOrder := entry.2
  isActive := true
  odOnly := odOnlyUserIds.contains entry.1

/-- A member is looked up for OD; a technician has one row at most. -/
def saveMember (odOnlyUserIds : List Nat) (entry : Nat × Nat) : RosterM Unit := do
  let row ← reads fun db =>
    match db.memberships.find? fun row => decide (row.dutyType = .OD ∧ row.userId = entry.1) with
    | some row => .ok (some row)
    | none => if db.memberships.any fun row => row.userId = entry.1 then .error databaseError else .ok none
  match row with
  | some _ => modify fun db => { db with
      memberships := db.memberships.map fun row =>
        if row.dutyType = .OD ∧ row.userId = entry.1 then memberRow odOnlyUserIds entry else row }
  | none => modify fun db => { db with memberships := db.memberships ++ [memberRow odOnlyUserIds entry] }

def deactivated (db : RosterDb) : RosterDb :=
  { db with memberships := db.memberships.map fun row => { row with isActive := false } }

def replaceRoster (s : Services) (actor : Actor) (userIds : List Nat) (odOnlyUserIds : Option (List Nat))
    (odOverrideEnabled : Option Bool) : RosterM Unit := do
  let selection ← reads fun db => selectable s db actor userIds odOnlyUserIds odOverrideEnabled
  modify deactivated
  selection.userIds.zipIdx.forM (saveMember selection.odOnlyUserIds)
  if odOverrideEnabled.isSome then modify fun db => { db with odOverrideEnabled := some selection.odOverrideEnabled }
  else pure ()

/-! ## All or nothing -/

def Legacy (db : RosterDb) (userId : Nat) : Prop :=
  ∃ row ∈ db.memberships, row.userId = userId ∧ row.dutyType ≠ .OD

instance (db : RosterDb) : DecidablePred (Legacy db) := fun userId => by
  unfold Legacy
  infer_instance

/-- A row of the active roster. -/
def IsActive (db : RosterDb) (row : DutyRosterMembership) : Prop := row ∈ db.memberships ∧ row.isActive = true

/-- The unique key of the roster. -/
def UserKeyed (db : RosterDb) : Prop := (db.memberships.map DutyRosterMembership.userId).Nodup

instance (db : RosterDb) : Decidable (UserKeyed db) := by
  unfold UserKeyed
  infer_instance

/-- The call succeeds and the roster is what was selected, or it fails and the active roster is what it was. -/
def AllOrNothing (s : Services) (m : RosterM Unit) (db : RosterDb) (selection : RosterSelection) : Prop :=
  (raises m db = none ∧ ((s.withRoster (leaves m db)).sharedRosterMembers.map fun member => (member.userId, member.odOnly)) =
      selection.userIds.map fun userId => (userId, selection.odOnlyUserIds.contains userId)) ∨
    raises m db ≠ none ∧ ∀ row, IsActive (leaves m db) row ↔ IsActive db row

/-! ## One member -/

section
variable {db start : RosterDb} {odOnlyUserIds : List Nat} {entry : Nat × Nat}

theorem UserKeyed.eq (h : UserKeyed db) {row row' : DutyRosterMembership} (hrow : row ∈ db.memberships)
    (hrow' : row' ∈ db.memberships) (hsame : row.userId = row'.userId) : row = row' :=
  List.inj_on_of_nodup_map h hrow hrow' hsame

/-- The row of another duty is not found, and the key of a new row is taken. -/
theorem saveMember_legacy (hkeys : UserKeyed db) (h : Legacy db entry.1) :
    saveMember odOnlyUserIds entry db = .error databaseError db := by
  obtain ⟨row, hrow, huser, htype⟩ := h
  have hnone : db.memberships.find? (fun row => decide (row.dutyType = .OD ∧ row.userId = entry.1)) = none := by
    refine List.find?_eq_none.mpr fun other hother hod => htype ?_
    rw [decide_eq_true_eq] at hod
    rw [hkeys.eq hrow hother (huser.trans hod.2.symm)]
    exact hod.1
  have htaken : (db.memberships.any fun row => row.userId = entry.1) = true :=
    List.any_eq_true.mpr ⟨row, hrow, decide_eq_true huser⟩
  refine reads_bind_error ?_
  rw [hnone]
  exact if_pos htaken

/-- The row of a technician is written over the one there was, or is new. -/
structure Puts (row : DutyRosterMembership) (db db' : RosterDb) : Prop where
  keyed : UserKeyed db'
  rows : ∀ other, other ∈ db'.memberships ↔ other = row ∨ other ∈ db.memberships ∧ other.userId ≠ row.userId

theorem puts_over (hkeys : UserKeyed db) {old : DutyRosterMembership} (hold : old ∈ db.memberships)
    (hod : old.dutyType = .OD ∧ old.userId = entry.1) : Puts (memberRow odOnlyUserIds entry) db
      { db with memberships := db.memberships.map fun row =>
          if row.dutyType = .OD ∧ row.userId = entry.1 then memberRow odOnlyUserIds entry else row } where
  keyed := by
    have hsame : (db.memberships.map fun row => if row.dutyType = .OD ∧ row.userId = entry.1 then
        memberRow odOnlyUserIds entry else row).map DutyRosterMembership.userId =
          db.memberships.map DutyRosterMembership.userId := map_column_of_change fun _ _ h => h.2.symm
    show ((db.memberships.map _).map DutyRosterMembership.userId).Nodup
    rw [hsame]
    exact hkeys
  rows other := by
    show other ∈ db.memberships.map _ ↔ _
    rw [List.mem_map]
    constructor
    · rintro ⟨row, hrow, rfl⟩
      split_ifs with h
      · exact .inl rfl
      · refine .inr ⟨hrow, fun huser => h ?_⟩
        rw [hkeys.eq hrow hold (huser.trans hod.2.symm)]
        exact hod
    · rintro (rfl | ⟨hother, huser⟩)
      · exact ⟨old, hold, if_pos hod⟩
      · exact ⟨other, hother, if_neg fun h => huser h.2⟩

theorem puts_new (hkeys : UserKeyed db) (hnew : ∀ row ∈ db.memberships, row.userId ≠ entry.1) :
    Puts (memberRow odOnlyUserIds entry) db
      { db with memberships := db.memberships ++ [memberRow odOnlyUserIds entry] } where
  keyed := by
    show ((db.memberships ++ [memberRow odOnlyUserIds entry]).map DutyRosterMembership.userId).Nodup
    rw [List.map_append, List.map_singleton]
    refine List.Nodup.append hkeys (List.nodup_singleton _) fun userId hold hsame => ?_
    obtain ⟨row, hrow, rfl⟩ := List.mem_map.mp hold
    exact hnew row hrow (List.mem_singleton.mp hsame)
  rows other := by
    show other ∈ db.memberships ++ [memberRow odOnlyUserIds entry] ↔ _
    rw [List.mem_append, List.mem_singleton]
    constructor
    · rintro (hother | hother)
      · exact .inr ⟨hother, hnew other hother⟩
      · exact .inl hother
    · rintro (hother | ⟨hother, -⟩)
      · exact .inr hother
      · exact .inl hother

theorem saveMember_puts (hkeys : UserKeyed db) (h : ¬ Legacy db entry.1) : ∃ db',
    saveMember odOnlyUserIds entry db = .ok () db' ∧ Puts (memberRow odOnlyUserIds entry) db db' := by
  cases hfound : db.memberships.find? (fun row => decide (row.dutyType = .OD ∧ row.userId = entry.1)) with
  | some old =>
    have hod := of_decide_eq_true (List.find?_some
      (p := fun row : DutyRosterMembership => decide (row.dutyType = .OD ∧ row.userId = entry.1)) hfound)
    refine ⟨_, ?_, puts_over hkeys (List.mem_of_find?_eq_some hfound) hod⟩
    refine (reads_bind_ok (a := some old) ?_).trans rfl
    rw [hfound]
  | none =>
    have hnew : ∀ row ∈ db.memberships, row.userId ≠ entry.1 := by
      intro row hrow huser
      by_cases htype : row.dutyType = .OD
      · exact List.find?_eq_none.mp hfound row hrow (decide_eq_true ⟨htype, huser⟩)
      · exact h ⟨row, hrow, huser, htype⟩
    have hfree : (db.memberships.any fun row => row.userId = entry.1) = false := by
      refine List.any_eq_false.mpr fun row hrow huser => ?_
      exact hnew row hrow (of_decide_eq_true huser)
    refine ⟨_, ?_, puts_new hkeys hnew⟩
    refine (reads_bind_ok (a := none) ?_).trans rfl
    rw [hfound, hfree]
    rfl

/-! ## The selected technicians, one by one -/

/-- The tables after some technicians were saved. -/
structure Saving (odOnlyUserIds : List Nat) (start : RosterDb) (done : List (Nat × Nat)) (db : RosterDb) : Prop where
  keyed : UserKeyed db
  rows : ∀ row, row ∈ db.memberships ↔ row ∈ done.map (memberRow odOnlyUserIds) ∨
    row ∈ start.memberships ∧ row.userId ∉ done.map Prod.fst

/-- A technician who was not saved is a legacy member as before. -/
theorem Saving.legacy {done : List (Nat × Nat)} (h : Saving odOnlyUserIds start done db) {userId : Nat}
    (hnew : userId ∉ done.map Prod.fst) : Legacy db userId ↔ Legacy start userId := by
  constructor
  · rintro ⟨row, hrow, huser, htype⟩
    rcases (h.rows row).mp hrow with hdone | ⟨hstart, -⟩
    · obtain ⟨entry, -, rfl⟩ := List.mem_map.mp hdone
      exact absurd rfl htype
    · exact ⟨row, hstart, huser, htype⟩
  · rintro ⟨row, hrow, huser, htype⟩
    refine ⟨row, (h.rows row).mpr (.inr ⟨hrow, ?_⟩), huser, htype⟩
    rw [huser]
    exact hnew

theorem Saving.puts {done : List (Nat × Nat)} {db' : RosterDb} (h : Saving odOnlyUserIds start done db)
    (hputs : Puts (memberRow odOnlyUserIds entry) db db') (hnew : entry.1 ∉ done.map Prod.fst) :
    Saving odOnlyUserIds start (done ++ [entry]) db' where
  keyed := hputs.keyed
  rows row := by
    rw [hputs.rows, h.rows, List.map_append, List.map_append, List.map_singleton, List.map_singleton, List.mem_append,
      List.mem_append, List.mem_singleton, List.mem_singleton, not_or]
    constructor
    · rintro (rfl | ⟨hdone | ⟨hstart, hother⟩, huser⟩)
      · exact .inl (.inr rfl)
      · exact .inl (.inl hdone)
      · exact .inr ⟨hstart, hother, huser⟩
    · rintro ((hdone | rfl) | ⟨hstart, hother, huser⟩)
      · refine .inr ⟨.inl hdone, fun huser => hnew ?_⟩
        obtain ⟨other, hother, rfl⟩ := List.mem_map.mp hdone
        rw [← show other.1 = entry.1 from huser]
        exact List.mem_map_of_mem hother
      · exact .inl rfl
      · exact .inr ⟨.inr ⟨hstart, hother⟩, huser⟩

/-- The technicians before the first legacy member are saved, and all of them where there is none. -/
theorem saveMembers_spec (entries : List (Nat × Nat)) {done : List (Nat × Nat)} (h : Saving odOnlyUserIds start done db)
    (hkeys : ((done ++ entries).map Prod.fst).Nodup) :
    (raises (entries.forM (saveMember odOnlyUserIds)) db = none ↔ ∀ entry ∈ entries, ¬ Legacy start entry.1) ∧
      Saving odOnlyUserIds start (done ++ entries.takeWhile fun entry => ¬ Legacy start entry.1)
        (leaves (entries.forM (saveMember odOnlyUserIds)) db) := by
  induction entries generalizing done db with
  | nil =>
    rw [List.takeWhile_nil, List.append_nil]
    exact ⟨⟨fun _ _ hmem => absurd hmem List.not_mem_nil, fun _ => rfl⟩, h⟩
  | cons entry rest ih =>
    have hnew : entry.1 ∉ done.map Prod.fst := by
      rw [List.map_append, List.map_cons] at hkeys
      intro hmem
      exact (List.nodup_append.mp hkeys).2.2 _ hmem _ List.mem_cons_self rfl
    show (raises (saveMember odOnlyUserIds entry >>= fun _ => rest.forM (saveMember odOnlyUserIds)) db = none ↔ _) ∧
      Saving _ _ _ (leaves (saveMember odOnlyUserIds entry >>= fun _ => rest.forM (saveMember odOnlyUserIds)) db)
    by_cases hlegacy : Legacy start entry.1
    · have hfails : saveMember odOnlyUserIds entry db = .error databaseError db :=
        saveMember_legacy h.keyed ((h.legacy hnew).mpr hlegacy)
      have hstops : (saveMember odOnlyUserIds entry >>= fun _ => rest.forM (saveMember odOnlyUserIds)) db =
          .error databaseError db := by
        show EStateM.bind _ _ db = _
        unfold EStateM.bind
        rw [hfails]
      rw [List.takeWhile_cons_of_neg (by simpa using hlegacy), List.append_nil]
      unfold raises leaves
      rw [hstops]
      refine ⟨⟨fun hnone => ?_, fun hall => absurd hlegacy (hall entry List.mem_cons_self)⟩, h⟩
      cases hnone
    · obtain ⟨db', hsaves, hputs⟩ : ∃ db', saveMember odOnlyUserIds entry db = .ok () db' ∧
          Puts (memberRow odOnlyUserIds entry) db db' :=
        saveMember_puts h.keyed fun hdb => hlegacy ((h.legacy hnew).mp hdb)
      have hgoes : (saveMember odOnlyUserIds entry >>= fun _ => rest.forM (saveMember odOnlyUserIds)) db =
          rest.forM (saveMember odOnlyUserIds) db' := by
        show EStateM.bind _ _ db = _
        unfold EStateM.bind
        rw [hsaves]
      have hrest := ih (h.puts hputs hnew) (by rwa [List.append_assoc, List.singleton_append])
      rw [List.takeWhile_cons_of_pos (by simpa using hlegacy), List.forall_mem_cons]
      unfold raises leaves
      rw [hgoes]
      refine ⟨hrest.1.trans ⟨fun hall => ⟨hlegacy, hall⟩, And.right⟩, ?_⟩
      rw [← List.singleton_append, ← List.append_assoc]
      exact hrest.2

end

/-! ## The roster that is read -/

theorem firstOfEach_of_nodup {rows : List DutyRosterMembership} (h : (rows.map DutyRosterMembership.userId).Nodup) :
    Services.firstOfEach rows = rows := by
  induction rows with
  | nil => rfl
  | cons row rest ih =>
    rw [List.map_cons, List.nodup_cons] at h
    rw [Services.firstOfEach, ih h.2, List.filter_eq_self.mpr]
    intro other hother
    refine decide_eq_true fun hsame => h.1 ?_
    rw [← hsame]
    exact List.mem_map_of_mem hother

/-- Rows of different places are read by their places. -/
theorem insertionSort_members {rows members : List DutyRosterMembership} (hperm : rows.Perm members)
    (hsorted : members.Pairwise fun a b => a.sortOrder < b.sortOrder) :
    rows.insertionSort (fun a b => a.sortOrder < b.sortOrder ∨ a.sortOrder = b.sortOrder ∧ a.userId ≤ b.userId) =
      members := by
  have htotal : Std.Total fun a b : DutyRosterMembership =>
      a.sortOrder < b.sortOrder ∨ a.sortOrder = b.sortOrder ∧ a.userId ≤ b.userId := ⟨fun a b => by omega⟩
  have htrans : IsTrans DutyRosterMembership fun a b =>
      a.sortOrder < b.sortOrder ∨ a.sortOrder = b.sortOrder ∧ a.userId ≤ b.userId := ⟨fun a b c => by omega⟩
  have hplaces : (members.map DutyRosterMembership.sortOrder).Nodup :=
    List.pairwise_map.mpr (hsorted.imp fun h => ne_of_lt h)
  refine List.Perm.eq_of_pairwise (fun a b ha hb hab hba => ?_) (List.pairwise_insertionSort _ rows)
    (hsorted.imp fun h => .inl h) ((List.perm_insertionSort _ rows).trans hperm)
  have hmem : a ∈ members := hperm.mem_iff.mp ((List.mem_insertionSort _).mp ha)
  have hplace : a.sortOrder = b.sortOrder := by omega
  exact List.inj_on_of_nodup_map hplaces hmem hb hplace

theorem pairwise_members (odOnlyUserIds userIds : List Nat) :
    (userIds.zipIdx.map (memberRow odOnlyUserIds)).Pairwise fun a b => a.sortOrder < b.sortOrder := by
  have hplaces : (userIds.zipIdx.map Prod.snd).Pairwise (· < ·) := by
    rw [List.zipIdx_map_snd]
    exact List.pairwise_lt_range' 1
  rw [List.pairwise_map] at hplaces ⊢
  exact hplaces.imp fun h => Int.ofNat_lt.mpr h

/-- Where every row that is active was selected, the roster is the selection. -/
theorem sharedRosterMembers_saved {s : Services} {db : RosterDb} {odOnlyUserIds userIds : List Nat} (hkeys : UserKeyed db)
    (hactive : ∀ row, IsActive db row ↔ row ∈ userIds.zipIdx.map (memberRow odOnlyUserIds))
    (husers : ∀ id ∈ userIds, id ∈ s.usersById) :
    ((s.withRoster db).sharedRosterMembers.map fun member => (member.userId, member.odOnly)) =
      userIds.map fun userId => (userId, odOnlyUserIds.contains userId) := by
  have hmem : ∀ row, row ∈ db.memberships.filter (fun row => row.isActive) ↔
      row ∈ userIds.zipIdx.map (memberRow odOnlyUserIds) := fun row => (List.mem_filter).trans (hactive row)
  have hnodup : ((db.memberships.filter fun row => row.isActive).map DutyRosterMembership.userId).Nodup :=
    hkeys.sublist (List.filter_sublist.map _)
  have hsorted := pairwise_members odOnlyUserIds userIds
  have hperm : (db.memberships.filter fun row => row.isActive).Perm (userIds.zipIdx.map (memberRow odOnlyUserIds)) :=
    (List.perm_ext_iff_of_nodup hnodup.of_map (hsorted.imp fun h => ne_of_apply_ne _ (ne_of_lt h))).mpr hmem
  have hod : (db.memberships.filter fun row => row.isActive).filter (fun row => row.dutyType = .OD) =
      db.memberships.filter fun row => row.isActive := by
    refine List.filter_eq_self.mpr fun row hrow => ?_
    obtain ⟨entry, -, rfl⟩ := List.mem_map.mp ((hmem row).mp hrow)
    rfl
  have hknown : (db.memberships.filter fun row => row.isActive).filter (fun row => s.usersById.contains row.userId) =
      db.memberships.filter fun row => row.isActive := by
    refine List.filter_eq_self.mpr fun row hrow => List.contains_iff_mem.mpr ?_
    obtain ⟨entry, hentry, rfl⟩ := List.mem_map.mp ((hmem row).mp hrow)
    exact husers _ (List.fst_mem_of_mem_zipIdx hentry)
  have hshared : (s.withRoster db).sharedRosterMembers = userIds.zipIdx.map (memberRow odOnlyUserIds) := by
    unfold Services.sharedRosterMembers
    dsimp only [Services.withRoster]
    rw [hod]
    split_ifs with hsome
    · rw [hknown, firstOfEach_of_nodup hnodup]
      exact insertionSort_members hperm hsorted
    · rw [not_not] at hsome
      rw [hsome] at hperm ⊢
      rw [List.nil_perm.mp hperm]
      rfl
  rw [hshared, List.map_map]
  conv_rhs => rw [← List.zipIdx_map_fst 0 userIds, List.map_map]
  rfl

/-! ## The whole replacement -/

theorem nodup_eraseDups : ∀ (n : Nat) (ids : List Nat), ids.length ≤ n → ids.eraseDups.Nodup
  | _, [], _ => by simp
  | n + 1, id :: rest, h => by
    rw [List.eraseDups_cons, List.nodup_cons, List.mem_eraseDups]
    refine ⟨fun hmem => ?_, nodup_eraseDups n _ ((List.length_filter_le _ _).trans (Nat.le_of_succ_le_succ h))⟩
    simpa using (List.mem_filter.mp hmem).2

/-- A selection has each of its technicians once, all of them of the staff. -/
theorem selectable_eq_ok {s : Services} {db : RosterDb} {actor : Actor} {userIds : List Nat}
    {odOnlyUserIds : Option (List Nat)} {odOverrideEnabled : Option Bool} {selection : RosterSelection}
    (h : selectable s db actor userIds odOnlyUserIds odOverrideEnabled = .ok selection) :
    selection.userIds.Nodup ∧ ∀ id ∈ selection.userIds, id ∈ s.usersById := by
  unfold selectable at h
  obtain ⟨_, -, h⟩ := bind_eq_ok.mp h
  obtain ⟨_, -, h⟩ := bind_eq_ok.mp h
  obtain ⟨_, -, h⟩ := bind_eq_ok.mp h
  obtain ⟨_, -, h⟩ := bind_eq_ok.mp h
  obtain ⟨_, husers, h⟩ := bind_eq_ok.mp h
  cases h
  exact ⟨nodup_eraseDups _ _ le_rfl, check_eq_ok.mp husers⟩

/-- The technicians who are saved: those before the first legacy member. -/
def savedMembers (db : RosterDb) (selection : RosterSelection) : List DutyRosterMembership :=
  (selection.userIds.zipIdx.takeWhile fun entry => ¬ Legacy db entry.1).map (memberRow selection.odOnlyUserIds)

theorem legacy_deactivated {db : RosterDb} {userId : Nat} : Legacy (deactivated db) userId ↔ Legacy db userId := by
  constructor
  · rintro ⟨row, hrow, huser, htype⟩
    obtain ⟨old, hold, rfl⟩ := List.mem_map.mp hrow
    exact ⟨old, hold, huser, htype⟩
  · rintro ⟨row, hrow, huser, htype⟩
    exact ⟨{ row with isActive := false }, List.mem_map_of_mem hrow, huser, htype⟩

theorem saving_deactivated {db : RosterDb} (hkeys : UserKeyed db) (odOnlyUserIds : List Nat) :
    Saving odOnlyUserIds (deactivated db) [] (deactivated db) where
  keyed := by
    show ((db.memberships.map _).map DutyRosterMembership.userId).Nodup
    rw [List.map_map]
    exact hkeys
  rows row := by simp

section
variable {s : Services} {db : RosterDb} {actor : Actor} {userIds : List Nat} {odOnlyUserIds : Option (List Nat)}
  {odOverrideEnabled : Option Bool} {selection : RosterSelection}

/-- The schedule is written last, and does not touch the roster. -/
theorem replaceRoster_eq (h : selectable s db actor userIds odOnlyUserIds odOverrideEnabled = .ok selection) :
    raises (replaceRoster s actor userIds odOnlyUserIds odOverrideEnabled) db =
        raises (selection.userIds.zipIdx.forM (saveMember selection.odOnlyUserIds)) (deactivated db) ∧
      (leaves (replaceRoster s actor userIds odOnlyUserIds odOverrideEnabled) db).memberships =
        (leaves (selection.userIds.zipIdx.forM (saveMember selection.odOnlyUserIds)) (deactivated db)).memberships := by
  have hstart : replaceRoster s actor userIds odOnlyUserIds odOverrideEnabled db =
      EStateM.bind (selection.userIds.zipIdx.forM (saveMember selection.odOnlyUserIds))
        (fun _ => if odOverrideEnabled.isSome then
          modify fun db => { db with odOverrideEnabled := some selection.odOverrideEnabled } else pure ())
        (deactivated db) := by
    unfold replaceRoster
    refine (reads_bind_ok (f := fun db => selectable s db actor userIds odOnlyUserIds odOverrideEnabled) h).trans ?_
    rfl
  unfold raises leaves
  rw [hstart]
  unfold EStateM.bind
  cases selection.userIds.zipIdx.forM (saveMember selection.odOnlyUserIds) (deactivated db) with
  | error e db' => exact ⟨rfl, rfl⟩
  | ok u db' =>
    dsimp only
    split_ifs
    · exact ⟨rfl, rfl⟩
    · exact ⟨rfl, rfl⟩

theorem replaceRoster_spec (hkeys : UserKeyed db)
    (h : selectable s db actor userIds odOnlyUserIds odOverrideEnabled = .ok selection) :
    (raises (replaceRoster s actor userIds odOnlyUserIds odOverrideEnabled) db = none ↔
        ∀ id ∈ selection.userIds, ¬ Legacy db id) ∧
      UserKeyed (leaves (replaceRoster s actor userIds odOnlyUserIds odOverrideEnabled) db) ∧
      ∀ row, IsActive (leaves (replaceRoster s actor userIds odOnlyUserIds odOverrideEnabled) db) row ↔
        row ∈ savedMembers db selection := by
  obtain ⟨hraises, hleaves⟩ := replaceRoster_eq h
  have hentries : (([] ++ selection.userIds.zipIdx).map Prod.fst).Nodup := by
    rw [List.nil_append, List.zipIdx_map_fst]
    exact (selectable_eq_ok h).1
  obtain ⟨hnone, hsaving⟩ := saveMembers_spec selection.userIds.zipIdx
    (saving_deactivated hkeys selection.odOnlyUserIds) hentries
  refine ⟨?_, ?_, fun row => ?_⟩
  · rw [hraises, hnone]
    constructor
    · intro hall id hid hlegacy
      rw [← List.zipIdx_map_fst 0 selection.userIds] at hid
      obtain ⟨entry, hentry, rfl⟩ := List.mem_map.mp hid
      exact hall entry hentry (legacy_deactivated.mpr hlegacy)
    · intro hall entry hentry hlegacy
      exact hall entry.1 (List.fst_mem_of_mem_zipIdx hentry) (legacy_deactivated.mp hlegacy)
  · unfold UserKeyed
    rw [hleaves]
    exact hsaving.keyed
  · unfold IsActive
    rw [hleaves, hsaving.rows row, List.nil_append]
    unfold savedMembers
    rw [show (fun entry : Nat × Nat => decide (¬ Legacy (deactivated db) entry.1)) =
      fun entry => decide (¬ Legacy db entry.1) from funext fun entry => decide_eq_decide.mpr (not_congr legacy_deactivated)]
    constructor
    · rintro ⟨hsaved | ⟨hold, -⟩, hactive⟩
      · exact hsaved
      · obtain ⟨old, -, rfl⟩ := List.mem_map.mp hold
        cases hactive
    · intro hsaved
      refine ⟨.inl hsaved, ?_⟩
      obtain ⟨entry, -, rfl⟩ := List.mem_map.mp hsaved
      rfl

/-- **Replacing the duty roster is all or nothing** exactly where no selected technician is a legacy member, or where the
active roster was what is saved before the first of them. -/
theorem roster_is_replaced_as_a_whole (hkeys : UserKeyed db)
    (h : selectable s db actor userIds odOnlyUserIds odOverrideEnabled = .ok selection) :
    AllOrNothing s (replaceRoster s actor userIds odOnlyUserIds odOverrideEnabled) db selection ↔
      (∀ id ∈ selection.userIds, ¬ Legacy db id) ∨ ∀ row, IsActive db row ↔ row ∈ savedMembers db selection := by
  obtain ⟨hnone, hkeyed, hactive⟩ := replaceRoster_spec hkeys h
  constructor
  · rintro (⟨hreturns, -⟩ | ⟨-, hsame⟩)
    · exact .inl (hnone.mp hreturns)
    · exact .inr fun row => (hsame row).symm.trans (hactive row)
  · intro hcondition
    by_cases hall : ∀ id ∈ selection.userIds, ¬ Legacy db id
    · refine .inl ⟨hnone.mpr hall, ?_⟩
      refine sharedRosterMembers_saved hkeyed (fun row => ?_) (selectable_eq_ok h).2
      rw [hactive row]
      unfold savedMembers
      rw [List.takeWhile_eq_self_iff.mpr]
      exact fun entry hentry => decide_eq_true (hall entry.1 (List.fst_mem_of_mem_zipIdx hentry))
    · have hsame := hcondition.resolve_left hall
      exact .inr ⟨fun hreturns => hall (hnone.mp hreturns), fun row => (hactive row).trans (hsame row).symm⟩

end

/-! ## A legacy member -/

/-- A service with two technicians. -/
def rosterService : Services where
  now := 0
  isDutyAdminAccess _ := true
  usersById := [1, 2]
  roster := []

/-- The second technician is on the roster, the first has a row of some duty. -/
def rosterWith (dutyType : DutyType) : RosterDb where
  memberships := [{ userId := 1, dutyType, isActive := false }, { userId := 2, sortOrder := 1 }]
  odOverrideEnabled := none

theorem roster_is_replaced_as_a_whole_twice : ∃ selection : RosterSelection, selection.userIds = [2, 1] ∧
    AllOrNothing rosterService (replaceRoster rosterService ⟨9, .super_admin⟩ [2, 1, 2] none none) (rosterWith .OD)
      selection := by
  have hselected : selectable rosterService (rosterWith .OD) ⟨9, .super_admin⟩ [2, 1, 2] none none =
      .ok ⟨[2, 1], [], false⟩ := rfl
  exact ⟨_, rfl, (roster_is_replaced_as_a_whole (by decide) hselected).mpr (.inl (by decide))⟩

/-- The first technician has a row of a meeting duty: the roster is empty after the call. -/
theorem legacy_member_in_the_way : ¬ ∀ (s : Services) (db : RosterDb) (actor : Actor) (userIds : List Nat)
    (odOnlyUserIds : Option (List Nat)) (odOverrideEnabled : Option Bool) (selection : RosterSelection), UserKeyed db →
    selectable s db actor userIds odOnlyUserIds odOverrideEnabled = .ok selection →
    AllOrNothing s (replaceRoster s actor userIds odOnlyUserIds odOverrideEnabled) db selection := by
  intro hall
  have hselected : selectable rosterService (rosterWith .ROC) ⟨9, .super_admin⟩ [1, 2] none none =
      .ok ⟨[1, 2], [], false⟩ := rfl
  rcases hall rosterService (rosterWith .ROC) ⟨9, .super_admin⟩ [1, 2] none none _ (by decide) hselected with
    ⟨hreturns, -⟩ | ⟨-, hsame⟩
  · revert hreturns
    decide
  · have hactive : IsActive (rosterWith .ROC) { userId := 2, sortOrder := 1 } := by
      unfold IsActive
      decide
    have hstill := (hsame _).mpr hactive
    revert hstill
    unfold IsActive
    decide

end ComplianceHub.Duty
