import ComplianceHub.Lib.Calls

/-!
# Mail deliveries and the configuration row

The row of the global settings also counts the messages that the primary transport has taken on a day.

* `TicketingConfig` : the row, its settings and its usage counter; `SettingsWrite` : the calls that change the settings;
* `send` : what a delivery does between its read and its save; `configCalls` : deliveries and settings changes,
  interleaved.

A save writes every column that differs from the row, so the row becomes the entity. Days are numbers.
-/

namespace ComplianceHub.Email
open Lib

/-! ## The configuration row -/

structure ConfigSettings where
  assignmentStrategy : String := "CURRENT_AUTO"
  roundRobinCapHours : Int := 80
  autoCloseDays : Int := 3
  smtpHost : Option String := none
  smtpPort : Option Int := none
  smtpUser : Option String := none
  smtpPass : Option String := none
  smtpFrom : Option String := none
  smtpFromName : Option String := none
  primarySmtpDailyLimit : Int := 500
  scheduleMode : String := "OFFICE_HOURS"
  officeClockin : String := "08:00:00"
  officeClockout : String := "17:00:00"
  cwwClockinStart : String := "07:00:00"
  cwwClockinEnd : String := "08:00:00"
  cwwClockoutStart : String := "18:00:00"
  cwwClockoutEnd : String := "19:00:00"
  isFlagCeremonyPaused : Bool := false
  isEmailNotificationsEnabled : Bool := true
  emailTestOverride : Option String := none
  odOverrideEnabled : Bool := false
deriving DecidableEq, Repr

structure SmtpUsage where
  primarySmtpSentToday : Nat := 0
  primarySmtpLastSentDate : Option Int := none
deriving DecidableEq, Repr

/-- Row 1 of `ticketing_configs`. -/
structure TicketingConfig extends ConfigSettings, SmtpUsage
deriving DecidableEq, Repr

/-- A field that is none is left as it is. -/
structure UpdateGlobalConfigDto where
  assignmentStrategy : Option String := none
  roundRobinCapHours : Option Int := none
  autoCloseDays : Option Int := none
  smtpHost : Option (Option String) := none
  smtpPort : Option (Option Int) := none
  smtpUser : Option (Option String) := none
  smtpPass : Option (Option String) := none
  smtpFrom : Option (Option String) := none
  smtpFromName : Option (Option String) := none
  primarySmtpDailyLimit : Option Int := none
  scheduleMode : Option String := none
  officeClockin : Option String := none
  officeClockout : Option String := none
  cwwClockinStart : Option String := none
  cwwClockinEnd : Option String := none
  cwwClockoutStart : Option String := none
  cwwClockoutEnd : Option String := none
  isFlagCeremonyPaused : Option Bool := none
  isEmailNotificationsEnabled : Option Bool := none
  emailTestOverride : Option (Option String) := none
deriving DecidableEq, Repr

def updateGlobalConfig (dto : UpdateGlobalConfigDto) (config : TicketingConfig) : TicketingConfig :=
  { config with
    assignmentStrategy := dto.assignmentStrategy.getD config.assignmentStrategy
    roundRobinCapHours := dto.roundRobinCapHours.getD config.roundRobinCapHours
    autoCloseDays := dto.autoCloseDays.getD config.autoCloseDays
    smtpHost := dto.smtpHost.getD config.smtpHost
    smtpPort := dto.smtpPort.getD config.smtpPort
    smtpUser := dto.smtpUser.getD config.smtpUser
    smtpPass := dto.smtpPass.getD config.smtpPass
    smtpFrom := dto.smtpFrom.getD config.smtpFrom
    smtpFromName := dto.smtpFromName.getD config.smtpFromName
    primarySmtpDailyLimit := dto.primarySmtpDailyLimit.getD config.primarySmtpDailyLimit
    scheduleMode := dto.scheduleMode.getD config.scheduleMode
    officeClockin := dto.officeClockin.getD config.officeClockin
    officeClockout := dto.officeClockout.getD config.officeClockout
    cwwClockinStart := dto.cwwClockinStart.getD config.cwwClockinStart
    cwwClockinEnd := dto.cwwClockinEnd.getD config.cwwClockinEnd
    cwwClockoutStart := dto.cwwClockoutStart.getD config.cwwClockoutStart
    cwwClockoutEnd := dto.cwwClockoutEnd.getD config.cwwClockoutEnd
    isFlagCeremonyPaused := dto.isFlagCeremonyPaused.getD config.isFlagCeremonyPaused
    isEmailNotificationsEnabled := dto.isEmailNotificationsEnabled.getD config.isEmailNotificationsEnabled
    emailTestOverride := dto.emailTestOverride.getD config.emailTestOverride }

/-- The changes of the settings, each a read of the row and a save of the entity. -/
inductive SettingsWrite where
  | updateGlobalConfig (dto : UpdateGlobalConfigDto)
  /-- The last part of `replaceRoster`. -/
  | replaceRoster (odOverrideEnabled : Bool)
deriving DecidableEq, Repr

def SettingsWrite.apply : SettingsWrite → TicketingConfig → TicketingConfig
  | .updateGlobalConfig dto, config => Email.updateGlobalConfig dto config
  | .replaceRoster odOverrideEnabled, config => { config with odOverrideEnabled }

/-! ## A delivery -/

structure EmailDeliveryOptions where
  bypassGeneralNotificationToggle : Bool := false
  security : Bool := false
deriving DecidableEq, Repr

structure Mail where
  recipientEmail : String
  options : EmailDeliveryOptions := {}
deriving DecidableEq, Repr

structure OutboundEmailDecision where
  allowed : Bool
  reason : String
deriving DecidableEq, Repr

structure EmailDeliveryOutcome where
  sent : Bool
  suppressed : Bool
  reason : Option String := none
deriving DecidableEq, Repr

structure EmailService where
  emailEnabled : Bool := true
  testOverrideTo : Option String := none

/-- What a step learns from outside. -/
structure Answer where
  today : Int
  /-- The decision for a recipient, for security codes or else. -/
  checkRecipient : String → Bool → OutboundEmailDecision := fun _ _ => ⟨true, ""⟩
  primaryTransporter : Bool := true
  fallbackTransporter : Bool := true
  sendFails : Bool := false
  saveFails : Bool := false

/-- A message that a transport has taken. -/
structure SentMail where
  effectiveTo : String
  day : Int
  usedFallback : Bool
deriving DecidableEq, Repr

/-- `a || b` of texts. -/
def orText (a b : Option String) : Option String := if a.any (· ≠ "") then a else b

def ConfigSettings.limit (config : ConfigSettings) : Int :=
  if config.primarySmtpDailyLimit = 0 then 500 else config.primarySmtpDailyLimit

def SmtpUsage.sentToday (usage : SmtpUsage) (today : Int) : Nat :=
  if usage.primarySmtpLastSentDate = some today then usage.primarySmtpSentToday else 0

section
variable (s : EmailService) (answer : Answer) (mail : Mail) (dbConfig : TicketingConfig)

def effectiveTo : String :=
  let isControlledManualDelivery :=
    mail.options.bypassGeneralNotificationToggle && !dbConfig.isEmailNotificationsEnabled
  let override := if !mail.options.security && isControlledManualDelivery then none
    else orText dbConfig.emailTestOverride s.testOverrideTo
  override.getD mail.recipientEmail

/-- The check of the recipients; none where both may receive the message. -/
def suppression : Option EmailDeliveryOutcome :=
  let security := mail.options.security
  if !dbConfig.isEmailNotificationsEnabled && !mail.options.bypassGeneralNotificationToggle && !security then
    some ⟨false, true, some "general_notifications_disabled"⟩
  else if !(answer.checkRecipient mail.recipientEmail security).allowed then
    some ⟨false, true, some (answer.checkRecipient mail.recipientEmail security).reason⟩
  else if !security && effectiveTo s mail dbConfig ≠ mail.recipientEmail &&
      !(answer.checkRecipient (effectiveTo s mail dbConfig) false).allowed then
    some ⟨false, true, some (answer.checkRecipient (effectiveTo s mail dbConfig) false).reason⟩
  else none

/-- The fallback takes the message. -/
def usesFallback : Bool :=
  !answer.primaryTransporter || decide (dbConfig.limit ≤ dbConfig.sentToday answer.today)

/-- A delivery from the checks to the transport. -/
def send : Except EmailDeliveryOutcome SentMail :=
  match suppression s answer mail dbConfig with
  | some outcome => .error outcome
  | none =>
    if usesFallback answer dbConfig && !answer.fallbackTransporter then
      .error ⟨false, false, some "smtp_unavailable"⟩
    else if answer.sendFails then .error ⟨false, false, some "delivery_failed"⟩
    else .ok ⟨effectiveTo s mail dbConfig, answer.today, usesFallback answer dbConfig⟩

end

/-- The entity that a delivery saves. -/
def counted (dbConfig : TicketingConfig) (today : Int) : TicketingConfig :=
  { dbConfig with
    primarySmtpSentToday := dbConfig.sentToday today + 1, primarySmtpLastSentDate := some today }

/-! ## Interleavings -/

/-- The row, the messages that have gone out, and the day. -/
structure ConfigState where
  config : TicketingConfig
  sent : List SentMail
  clock : Int
deriving DecidableEq, Repr

inductive ConfigCall where
  | deliver (mail : Mail)
  | loaded (mail : Mail) (dbConfig : TicketingConfig)
  /-- The primary transport has taken the message on `today`. -/
  | sent (dbConfig : TicketingConfig) (today : Int)
  | settings (write : SettingsWrite)
  | settingsLoaded (write : SettingsWrite) (config : TicketingConfig)
  /-- With the outcome of a delivery. -/
  | ended (outcome : Option EmailDeliveryOutcome)
deriving DecidableEq, Repr

def configStepNow (s : EmailService) (st : ConfigState) (call : ConfigCall) (answer : Answer) :
    Option (ConfigState × ConfigCall) :=
  match call with
  | .deliver mail =>
    if s.emailEnabled then some (st, .loaded mail st.config)
    else some (st, .ended (some ⟨false, true, some "system_email_disabled"⟩))
  | .loaded mail dbConfig =>
    match send s answer mail dbConfig with
    | .error outcome => some (st, .ended (some outcome))
    | .ok message =>
      some ({ st with sent := st.sent ++ [message] },
        if message.usedFallback then .ended (some ⟨true, false, none⟩) else .sent dbConfig message.day)
  | .sent dbConfig today =>
    -- the message is out, so a failed save is only logged
    some (if answer.saveFails then st else { st with config := counted dbConfig today },
      .ended (some ⟨true, false, none⟩))
  | .settings write => some (st, .settingsLoaded write st.config)
  | .settingsLoaded write config =>
    some (if answer.saveFails then st else { st with config := write.apply config }, .ended none)
  | .ended _ => none

/-- Time does not go back. -/
def configStep (s : EmailService) (st : ConfigState) (call : ConfigCall) (answer : Answer) :
    Option (ConfigState × ConfigCall) :=
  if answer.today < st.clock then none else configStepNow s { st with clock := answer.today } call answer

def ConfigCall.isStart : ConfigCall → Prop
  | .deliver _ | .settings _ => True
  | _ => False

/-- Deliveries and settings changes from a row with any settings, before the first message. -/
def configCalls (s : EmailService) : Calls ConfigState ConfigCall Answer where
  init st := st.config.toSmtpUsage = {} ∧ st.sent = []
  start := ConfigCall.isStart
  step := configStep s

end ComplianceHub.Email
