import ComplianceHub.Email.Delivery
import Mathlib.Data.List.Count
import Mathlib.Data.Fintype.Basic

/-!
# The settings and the counter under deliveries

* `Counted` : the counter is the number of messages of its day; `Balanced` : it is, but for one delivery that has still
  to count its message;
* `Undisturbed` : what a step needs of the row;
* `deliveries_keep_settings_and_count` : where every step is undisturbed, no delivery changes a setting, the counter is
  exact and the limit is kept;
* `overlapping_deliveries_revert_and_miscount` : a delivery takes a setting back, a message is not counted, and the limit
  is passed.
-/

namespace ComplianceHub.Email
open Lib

/-! ## The counter -/

/-- The days of the messages that the primary transport has taken. -/
def ConfigState.primaryDays (st : ConfigState) : List Int :=
  (st.sent.filter fun message => !message.usedFallback).map SentMail.day

/-- The messages on the day that the row names. -/
def SmtpUsage.messagesOn (usage : SmtpUsage) (days : List Int) : Nat :=
  match usage.primarySmtpLastSentDate with
  | some day => days.count day
  | none => 0

/-- The counter is the number of messages of its day, and there is no message of a later day. -/
structure Counted (usage : SmtpUsage) (days : List Int) : Prop where
  count : usage.primarySmtpSentToday = usage.messagesOn days
  last : ∀ day ∈ days, ∃ last, usage.primarySmtpLastSentDate = some last ∧ day ≤ last

theorem Counted.count_today {usage : SmtpUsage} {days : List Int} (h : Counted usage days) {today : Int}
    (hlast : ∀ last, usage.primarySmtpLastSentDate = some last → last ≤ today) :
    days.count today = usage.sentToday today := by
  unfold SmtpUsage.sentToday
  split_ifs with htoday
  · rw [h.count, SmtpUsage.messagesOn, htoday]
  · apply List.count_eq_zero.mpr
    intro hmem
    obtain ⟨last, hsome, hle⟩ := h.last today hmem
    have := hlast last hsome
    exact htoday (by rw [hsome, le_antisymm this hle])

/-- One more message, and the save that counts it. -/
theorem Counted.counted {dbConfig : TicketingConfig} {days : List Int} (h : Counted dbConfig.toSmtpUsage days) {today : Int}
    (hlast : ∀ last, dbConfig.primarySmtpLastSentDate = some last → last ≤ today) :
    Counted (counted dbConfig today).toSmtpUsage (days ++ [today]) := by
  constructor
  · show dbConfig.sentToday today + 1 = (days ++ [today]).count today
    rw [List.count_append, h.count_today hlast, List.count_singleton_self]
  · intro day hday
    refine ⟨today, rfl, ?_⟩
    rcases List.mem_append.mp hday with hday | hday
    · obtain ⟨last, hsome, hle⟩ := h.last day hday
      exact hle.trans (hlast last hsome)
    · exact (List.mem_singleton.mp hday).le

def ConfigCall.isSent : ConfigCall → Bool
  | .sent _ _ => true
  | _ => false

def ConfigCall.inFlight : ConfigCall → Bool
  | .loaded _ _ | .sent _ _ | .settingsLoaded _ _ => true
  | _ => false

def ConfigCall.isDelivery : ConfigCall → Bool
  | .deliver _ | .loaded _ _ | .sent _ _ => true
  | _ => false

section
variable {ι : Type} [DecidableEq ι] {s : EmailService}

abbrev ConfigTransition (ι : Type) := Transition (Pool ι ConfigState ConfigCall) (ι × Answer)

/-- The call hands a message to the primary transport. -/
def GoesPrimary (s : EmailService) (answer : Answer) (call : ConfigCall) : Prop :=
  match call with
  | .loaded mail dbConfig => ∃ message, send s answer mail dbConfig = .ok message ∧ message.usedFallback = false
  | _ => False

/-- What a step needs: a message goes out with the row's counter and limit, while every earlier message is counted; the
save after it succeeds and finds the settings as they were read; a save of the settings finds the counter as it was. -/
def Undisturbed (s : EmailService) (e : ConfigTransition ι) : Prop :=
  match e.before.call e.label.1 with
  | .loaded mail dbConfig => GoesPrimary s e.label.2 (.loaded mail dbConfig) →
      dbConfig.toSmtpUsage = e.before.shared.config.toSmtpUsage ∧ dbConfig.limit = e.before.shared.config.limit ∧
        ∀ j, (e.before.call j).isSent = false
  | .sent dbConfig _ => e.label.2.saveFails = false ∧ dbConfig.toConfigSettings = e.before.shared.config.toConfigSettings
  | .settingsLoaded _ config => config.toSmtpUsage = e.before.shared.config.toSmtpUsage
  | _ => True

/-! ## Steps -/

theorem send_eq_ok {answer : Answer} {mail : Mail} {dbConfig : TicketingConfig} {message : SentMail}
    (h : send s answer mail dbConfig = .ok message) :
    message.day = answer.today ∧ message.usedFallback = usesFallback answer dbConfig := by
  unfold send at h
  split at h
  · cases h
  · split_ifs at h
    obtain rfl := Except.ok.inj h
    exact ⟨rfl, rfl⟩

/-- What a step makes of the state, whose clock is set, and of the call. -/
inductive ConfigStep (s : EmailService) (answer : Answer) (st : ConfigState) : ConfigCall → ConfigState → ConfigCall → Prop
  | goesOn {call call' : ConfigCall} : call.isSent = false → call'.isSent = false → ¬ GoesPrimary s answer call →
      ConfigStep s answer st call st call'
  | fallback {mail : Mail} {dbConfig : TicketingConfig} {message : SentMail} {call' : ConfigCall} :
      send s answer mail dbConfig = .ok message → message.usedFallback = true → call'.isSent = false →
      ConfigStep s answer st (.loaded mail dbConfig) { st with sent := st.sent ++ [message] } call'
  | primary {mail : Mail} {dbConfig : TicketingConfig} {message : SentMail} :
      send s answer mail dbConfig = .ok message → message.usedFallback = false →
      ConfigStep s answer st (.loaded mail dbConfig) { st with sent := st.sent ++ [message] } (.sent dbConfig answer.today)
  | saves {dbConfig : TicketingConfig} {today : Int} {call' : ConfigCall} : call'.isSent = false →
      ConfigStep s answer st (.sent dbConfig today) { st with config := counted dbConfig today } call'
  | miscounts {dbConfig : TicketingConfig} {today : Int} {call' : ConfigCall} : answer.saveFails = true →
      ConfigStep s answer st (.sent dbConfig today) st call'
  | changes {write : SettingsWrite} {config : TicketingConfig} {call' : ConfigCall} : call'.isSent = false →
      ConfigStep s answer st (.settingsLoaded write config) { st with config := write.apply config } call'

theorem configStep_of_stepNow {answer : Answer} {st st' : ConfigState} {call call' : ConfigCall}
    (h : configStepNow s st call answer = some (st', call')) : ConfigStep s answer st call st' call' := by
  cases call with
  | deliver mail =>
    simp only [configStepNow] at h
    split_ifs at h
    · cases h
      exact .goesOn rfl rfl id
    · cases h
      exact .goesOn rfl rfl id
  | loaded mail dbConfig =>
    simp only [configStepNow] at h
    split at h
    · rename_i outcome hsend
      cases h
      refine .goesOn rfl rfl ?_
      rintro ⟨message, hok, -⟩
      rw [hsend] at hok
      cases hok
    · rename_i message hsend
      have hday := (send_eq_ok hsend).1
      split_ifs at h with hfallback
      · cases h
        exact .fallback hsend hfallback rfl
      · cases h
        rw [hday]
        exact .primary hsend (Bool.eq_false_iff.mpr hfallback)
  | sent dbConfig today =>
    simp only [configStepNow] at h
    split_ifs at h with hfails
    · cases h
      exact .miscounts hfails
    · cases h
      exact .saves rfl
  | settings write =>
    cases h
    exact .goesOn rfl rfl id
  | settingsLoaded write config =>
    simp only [configStepNow] at h
    split_ifs at h
    · cases h
      exact .goesOn rfl rfl id
    · cases h
      exact .changes rfl
  | ended outcome => cases h

/-- The step of a call, and the clock. -/
theorem configStep_of_step {p p' : Pool ι ConfigState ConfigCall} {l : ι × Answer}
    (h : ((configCalls s).interleaved ι).step p l p') : p.shared.clock ≤ l.2.today ∧
      ∃ st' call', ConfigStep s l.2 { p.shared with clock := l.2.today } (p.call l.1) st' call' ∧ p' = p.after l.1 (st', call') := by
  obtain ⟨⟨st', call'⟩, hr, rfl⟩ := h
  have hr : configStep s p.shared (p.call l.1) l.2 = some (st', call') := hr
  unfold configStep at hr
  split_ifs at hr with hclock
  exact ⟨not_lt.mp hclock, st', call', configStep_of_stepNow hr, rfl⟩

theorem SettingsWrite.apply_toSmtpUsage (write : SettingsWrite) (config : TicketingConfig) :
    (write.apply config).toSmtpUsage = config.toSmtpUsage := by
  cases write <;> rfl

theorem primaryDays_append (st : ConfigState) (message : SentMail) :
    ({ st with sent := st.sent ++ [message] } : ConfigState).primaryDays =
      st.primaryDays ++ if message.usedFallback then [] else [message.day] := by
  show ((st.sent ++ [message]).filter _).map _ = _
  rw [List.filter_append, List.map_append]
  cases hfallback : message.usedFallback with
  | true => rw [List.filter_cons_of_neg (by simp [hfallback])]; rfl
  | false => rw [List.filter_cons_of_pos (by simp [hfallback])]; rfl

/-! ## The invariant -/

/-- Every message is counted. -/
def Settled (p : Pool ι ConfigState ConfigCall) : Prop :=
  (∀ i, (p.call i).isSent = false) ∧ Counted p.shared.config.toSmtpUsage p.shared.primaryDays

/-- One delivery has still to count its message; the others are counted, and the row's counter is the one it has read. -/
def Uncounted (p : Pool ι ConfigState ConfigCall) : Prop :=
  ∃ i dbConfig today days, p.call i = .sent dbConfig today ∧ (∀ j, j ≠ i → (p.call j).isSent = false) ∧
    dbConfig.toSmtpUsage = p.shared.config.toSmtpUsage ∧ p.shared.primaryDays = days ++ [today] ∧
    Counted p.shared.config.toSmtpUsage days ∧ today ≤ p.shared.clock ∧
    ∀ last, p.shared.config.primarySmtpLastSentDate = some last → last ≤ today

structure Balanced (p : Pool ι ConfigState ConfigCall) : Prop where
  last : ∀ last, p.shared.config.primarySmtpLastSentDate = some last → last ≤ p.shared.clock
  counted : Settled p ∨ Uncounted p

/-- A step that leaves the counter, the messages of the primary transport and the deliveries that have to count. -/
theorem Balanced.frame {p : Pool ι ConfigState ConfigCall} (h : Balanced p) {i : ι} {st' : ConfigState} {call' : ConfigCall}
    (husage : st'.config.toSmtpUsage = p.shared.config.toSmtpUsage) (hdays : st'.primaryDays = p.shared.primaryDays)
    (hclock : p.shared.clock ≤ st'.clock) (hcall : (p.call i).isSent = false) (hcall' : call'.isSent = false) :
    Balanced (p.after i (st', call')) := by
  have hlast : st'.config.primarySmtpLastSentDate = p.shared.config.primarySmtpLastSentDate :=
    congrArg SmtpUsage.primarySmtpLastSentDate husage
  have hcalls : ∀ j, (p.call j).isSent = false → ((p.after i (st', call')).call j).isSent = false := by
    intro j hj
    by_cases hji : j = i
    · subst hji
      rw [Pool.after_call]
      exact hcall'
    · rw [Pool.after_call_of_ne p _ hji]
      exact hj
  refine ⟨fun last hsome => ?_, ?_⟩
  · have hsome : st'.config.primarySmtpLastSentDate = some last := hsome
    rw [hlast] at hsome
    exact (h.last last hsome).trans hclock
  · rcases h.counted with ⟨hnone, hcounted⟩ | ⟨k, dbConfig, today, days, hk, hothers, hsame, hsplit, hcounted, hle, hbefore⟩
    · refine .inl ⟨fun j => hcalls j (hnone j), ?_⟩
      show Counted st'.config.toSmtpUsage st'.primaryDays
      rw [husage, hdays]
      exact hcounted
    · have hki : k ≠ i := by
        rintro rfl
        rw [hk] at hcall
        cases hcall
      refine .inr ⟨k, dbConfig, today, days, ?_, fun j hj => hcalls j (hothers j hj), hsame.trans husage.symm,
        hdays.trans hsplit, ?_, hle.trans hclock, ?_⟩
      · rw [Pool.after_call_of_ne p _ hki]
        exact hk
      · show Counted st'.config.toSmtpUsage days
        rw [husage]
        exact hcounted
      · intro last hsome
        have hsome : st'.config.primarySmtpLastSentDate = some last := hsome
        rw [hlast] at hsome
        exact hbefore last hsome

theorem balanced_init {p : Pool ι ConfigState ConfigCall} (h : ((configCalls s).interleaved ι).init p) : Balanced p := by
  obtain ⟨⟨husage, hsent⟩, hstart⟩ := h
  have hlast : p.shared.config.primarySmtpLastSentDate = none := congrArg SmtpUsage.primarySmtpLastSentDate husage
  refine ⟨fun last hsome => ?_, .inl ⟨fun i => ?_, ?_⟩⟩
  · rw [hlast] at hsome
    cases hsome
  · have hcall : (p.call i).isStart := hstart i
    generalize p.call i = call at hcall
    cases call <;> first | rfl | cases hcall
  · have hdays : p.shared.primaryDays = [] := by
      unfold ConfigState.primaryDays
      rw [hsent]
      rfl
    rw [husage, hdays]
    exact ⟨rfl, fun day hday => absurd hday List.not_mem_nil⟩

theorem balanced_step {p p' : Pool ι ConfigState ConfigCall} {l : ι × Answer} (hp : Balanced p)
    (h : ((configCalls s).interleaved ι).step p l p') (hu : Undisturbed s ⟨p, l, p'⟩) : Balanced p' := by
  obtain ⟨i, answer⟩ := l
  obtain ⟨hclock, st', call', hstep, rfl⟩ := configStep_of_step h
  simp only [Undisturbed] at hu
  generalize hcall : p.call i = call at hstep hu
  cases hstep with
  | goesOn hsent hsent' => exact hp.frame rfl rfl hclock (by rw [hcall]; exact hsent) hsent'
  | @fallback _ _ message _ hsend hfallback hsent' =>
    refine hp.frame rfl ?_ hclock (by rw [hcall]; rfl) hsent'
    rw [primaryDays_append, if_pos hfallback, List.append_nil]
    rfl
  | @primary _ dbConfig message hsend hprimary =>
    obtain ⟨husage, -, hnone⟩ := hu ⟨message, hsend, hprimary⟩
    refine ⟨fun last hsome => (hp.last last hsome).trans hclock, .inr ⟨i, dbConfig, answer.today, p.shared.primaryDays,
      Pool.after_call _ _ _, fun j hj => ?_, husage, ?_, ?_, le_rfl, fun last hsome => (hp.last last hsome).trans hclock⟩⟩
    · rw [Pool.after_call_of_ne p _ hj]
      exact hnone j
    · show ConfigState.primaryDays { p.shared with clock := _, sent := _ } = _
      rw [← (send_eq_ok hsend).1]
      refine (primaryDays_append _ message).trans ?_
      rw [if_neg (Bool.eq_false_iff.mp hprimary)]
      rfl
    · rcases hp.counted with ⟨-, hcounted⟩ | ⟨k, _, _, _, hk, -⟩
      · exact hcounted
      · have := hnone k
        rw [hk] at this
        cases this
  | @saves dbConfig today _ hsent' =>
    rcases hp.counted with ⟨hnone, -⟩ | ⟨k, dbConfig', today', days, hk, hothers, husage, hdays, hcounted, hle, hlast⟩
    · have := hnone i
      rw [hcall] at this
      cases this
    · have hki : k = i := by
        by_contra hne
        have := hothers i (Ne.symm hne)
        rw [hcall] at this
        cases this
      subst hki
      rw [hk] at hcall
      cases hcall
      have hlast' : dbConfig.primarySmtpLastSentDate = p.shared.config.primarySmtpLastSentDate :=
        congrArg SmtpUsage.primarySmtpLastSentDate husage
      refine ⟨fun last hsome => ?_, .inl ⟨fun j => ?_, ?_⟩⟩
      · cases hsome
        exact hle.trans hclock
      · by_cases hj : j = k
        · subst hj
          rw [Pool.after_call]
          exact hsent'
        · rw [Pool.after_call_of_ne p _ hj]
          exact hothers j hj
      · show Counted (Email.counted dbConfig today).toSmtpUsage p.shared.primaryDays
        rw [hdays]
        rw [← husage] at hcounted
        exact hcounted.counted fun last hsome => hlast last (hlast'.symm.trans hsome)
  | miscounts hfails => exact absurd (hu.1.symm.trans hfails) Bool.false_ne_true
  | @changes write config _ hsent' =>
    refine hp.frame ?_ rfl hclock (by rw [hcall]; rfl) hsent'
    show (write.apply config).toSmtpUsage = _
    rw [write.apply_toSmtpUsage]
    exact hu

/-- A delivery that finds the settings as it read them leaves them. -/
theorem settings_step {p p' : Pool ι ConfigState ConfigCall} {l : ι × Answer}
    (h : ((configCalls s).interleaved ι).step p l p') (hu : Undisturbed s ⟨p, l, p'⟩)
    (hdelivery : (p.call l.1).isDelivery = true) :
    p'.shared.config.toConfigSettings = p.shared.config.toConfigSettings := by
  obtain ⟨-, st', call', hstep, rfl⟩ := configStep_of_step h
  simp only [Undisturbed] at hu
  generalize p.call l.1 = call at hstep hu hdelivery
  cases hstep with
  | goesOn | fallback | primary | miscounts => rfl
  | saves => exact hu.2
  | changes => cases hdelivery

/-- A message that goes out with the row's counter and limit is within the limit. -/
theorem limit_step {p p' : Pool ι ConfigState ConfigCall} {l : ι × Answer} (hp : Balanced p)
    (h : ((configCalls s).interleaved ι).step p l p') (hu : Undisturbed s ⟨p, l, p'⟩)
    (hprimary : GoesPrimary s l.2 (p.call l.1)) :
    (p.shared.primaryDays.count l.2.today : Int) < p.shared.config.limit := by
  obtain ⟨hclock, -⟩ := configStep_of_step h
  simp only [Undisturbed] at hu
  generalize p.call l.1 = call at hu hprimary
  cases call with
  | loaded mail dbConfig =>
    obtain ⟨husage, hlimit, hnone⟩ := hu hprimary
    obtain ⟨message, hsend, hmessage⟩ := hprimary
    rcases hp.counted with ⟨-, hcounted⟩ | ⟨k, _, _, _, hk, -⟩
    · rw [hcounted.count_today fun last hsome => (hp.last last hsome).trans hclock, ← husage, ← hlimit]
      have hsends := (send_eq_ok hsend).2
      rw [hmessage] at hsends
      unfold usesFallback at hsends
      have hnot := (Bool.or_eq_false_iff.mp hsends.symm).2
      exact not_le.mp (of_decide_eq_false hnot)
    · have := hnone k
      rw [hk] at this
      cases this
  | _ => cases hprimary

/-- **Deliveries keep the settings and the counter**, in every run whose steps find the row undisturbed: no delivery
changes a setting, the counter is exact when nothing is in flight, and every message of the primary transport is within
the limit of its day. -/
theorem deliveries_keep_settings_and_count {history : List (ConfigTransition ι)} {p : Pool ι ConfigState ConfigCall}
    (h : Run ((configCalls s).interleaved ι) history p) (hP : ∀ e ∈ history, Undisturbed s e) :
    (∀ e ∈ history, (e.before.call e.label.1).isDelivery = true →
        e.after.shared.config.toConfigSettings = e.before.shared.config.toConfigSettings) ∧
      ((∀ i, (p.call i).inFlight = false) →
        p.shared.config.primarySmtpSentToday = p.shared.config.messagesOn p.shared.primaryDays) ∧
      ∀ e ∈ history, GoesPrimary s e.label.2 (e.before.call e.label.1) →
        (e.before.shared.primaryDays.count e.label.2.today : Int) < e.before.shared.config.limit := by
  have hbalanced {history : List (ConfigTransition ι)} {p : Pool ι ConfigState ConfigCall}
      (h : Run ((configCalls s).interleaved ι) history p) (hP : ∀ e ∈ history, Undisturbed s e) : Balanced p :=
    h.always (P := Undisturbed s) (fun _ => balanced_init) (fun _ _ _ hp hs hu => balanced_step hp hs hu) hP
  refine ⟨fun e he hdelivery => settings_step (h.reached e he).1 (hP e he) hdelivery, fun hquiet => ?_, fun e he hprimary => ?_⟩
  · rcases (hbalanced h hP).counted with ⟨-, hcounted⟩ | ⟨i, _, _, _, hi, -⟩
    · exact hcounted.count
    · have := hquiet i
      rw [hi] at this
      cases this
  · obtain ⟨hstep, earlier, hrun, hpast⟩ := h.reached e he
    exact limit_step (hbalanced hrun fun e' he' => hP e' (hpast.subset he')) hstep (hP e he) hprimary

end

/-! ## Overlapping deliveries -/

theorem goesPrimary_loaded_iff {s : EmailService} {answer : Answer} {mail : Mail} {dbConfig : TicketingConfig} :
    ((send s answer mail dbConfig).toOption.any fun message => !message.usedFallback) = true ↔
      GoesPrimary s answer (.loaded mail dbConfig) := by
  show _ ↔ ∃ message, send s answer mail dbConfig = .ok message ∧ message.usedFallback = false
  cases send s answer mail dbConfig with
  | error outcome => simp [Except.toOption]
  | ok message => simp [Except.toOption]

instance (s : EmailService) (answer : Answer) : (call : ConfigCall) → Decidable (GoesPrimary s answer call)
  | .loaded _ _ => decidable_of_iff _ goesPrimary_loaded_iff
  | .deliver _ | .sent _ _ | .settings _ | .settingsLoaded _ _ | .ended _ => .isFalse id

instance {ι : Type} [Fintype ι] (s : EmailService) (e : ConfigTransition ι) : Decidable (Undisturbed s e) := by
  unfold Undisturbed
  split <;> infer_instance

/-- Two deliveries, with a limit of one message a day, and a change of the flag ceremony pause. -/
def overlapping : Pool (Fin 3) ConfigState ConfigCall where
  shared := { config := { primarySmtpDailyLimit := 1 }, sent := [], clock := 0 }
  call
    | 0 => .deliver { recipientEmail := "a" }
    | 1 => .deliver { recipientEmail := "b" }
    | 2 => .settings (.updateGlobalConfig { isFlagCeremonyPaused := some true })

theorem overlapping_init : ((configCalls {}).interleaved (Fin 3)).init overlapping := by
  refine ⟨⟨rfl, rfl⟩, fun i => ?_⟩
  match i with
  | 0 | 1 | 2 => trivial

/-- The deliveries read the row before the change, and send before either saves. -/
theorem overlapping_deliveries_revert_and_miscount : ∃ history p,
    Run ((configCalls {}).interleaved (Fin 3)) history p ∧
      (∃ e ∈ history, (e.before.call e.label.1).isDelivery = true ∧
        e.after.shared.config.toConfigSettings ≠ e.before.shared.config.toConfigSettings) ∧
      ((∀ i, (p.call i).inFlight = false) ∧
        p.shared.config.primarySmtpSentToday ≠ p.shared.config.messagesOn p.shared.primaryDays) ∧
      ∃ e ∈ history, GoesPrimary {} e.label.2 (e.before.call e.label.1) ∧
        e.before.shared.config.limit ≤ (e.before.shared.primaryDays.count e.label.2.today : Int) := by
  have hlog : ((configCalls {}).execute overlapping ([0, 1, 2, 2, 0, 1, 0, 1].map fun i => (i, { today := 0 }))).any (fun log =>
      log.1.any (fun e => (e.before.call e.label.1).isDelivery &&
        decide (e.after.shared.config.toConfigSettings ≠ e.before.shared.config.toConfigSettings)) &&
      decide ((∀ i, (log.2.call i).inFlight = false) ∧
        log.2.shared.config.primarySmtpSentToday ≠ log.2.shared.config.messagesOn log.2.shared.primaryDays) &&
      log.1.any fun e => decide (GoesPrimary {} e.label.2 (e.before.call e.label.1) ∧
        e.before.shared.config.limit ≤ (e.before.shared.primaryDays.count e.label.2.today : Int))) = true := by
    decide +kernel
  obtain ⟨log, hexecute, hlog⟩ := (Option.any_eq_true _ _).mp hlog
  rw [Bool.and_eq_true, Bool.and_eq_true, List.any_eq_true, List.any_eq_true, decide_eq_true_eq] at hlog
  obtain ⟨⟨⟨e, he, hreverts⟩, hmiscounts⟩, e', he', hpasses⟩ := hlog
  rw [Bool.and_eq_true, decide_eq_true_eq] at hreverts
  exact ⟨log.1, log.2, Calls.run_of_execute overlapping_init hexecute, ⟨e, he, hreverts⟩, hmiscounts, e', he',
    of_decide_eq_true hpasses⟩

/-- One after the other, the first delivery is counted, the second goes to the fallback and the change stays. -/
theorem deliveries_keep_settings_and_count_in_turn : ∃ history p,
    Run ((configCalls {}).interleaved (Fin 3)) history p ∧
      (p.shared.config.isFlagCeremonyPaused = true ∧ p.shared.config.primarySmtpSentToday = 1 ∧
        p.shared.sent.length = 2) ∧
      (∀ e ∈ history, (e.before.call e.label.1).isDelivery = true →
        e.after.shared.config.toConfigSettings = e.before.shared.config.toConfigSettings) ∧
      ((∀ i, (p.call i).inFlight = false) →
        p.shared.config.primarySmtpSentToday = p.shared.config.messagesOn p.shared.primaryDays) ∧
      ∀ e ∈ history, GoesPrimary {} e.label.2 (e.before.call e.label.1) →
        (e.before.shared.primaryDays.count e.label.2.today : Int) < e.before.shared.config.limit := by
  have hlog : ((configCalls {}).execute overlapping ([2, 2, 0, 0, 0, 1, 1].map fun i => (i, { today := 0 }))).any (fun log =>
      decide (log.2.shared.config.isFlagCeremonyPaused = true ∧ log.2.shared.config.primarySmtpSentToday = 1 ∧
        log.2.shared.sent.length = 2) && log.1.all fun e => decide (Undisturbed {} e)) = true := by
    decide +kernel
  obtain ⟨log, hexecute, hlog⟩ := (Option.any_eq_true _ _).mp hlog
  rw [Bool.and_eq_true, decide_eq_true_eq, List.all_eq_true] at hlog
  have hrun := Calls.run_of_execute overlapping_init hexecute
  exact ⟨_, _, hrun, hlog.1, deliveries_keep_settings_and_count hrun fun e he => of_decide_eq_true (hlog.2 e he)⟩

end ComplianceHub.Email
