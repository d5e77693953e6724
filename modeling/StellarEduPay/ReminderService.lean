import StellarEduPay.JsString

/-! # Eligibility for a reminder (`services/reminderService.js`)

Whether a student is reminded depends on what is known of the student and its parent, and on three
tracking fields: how many reminders were sent, when the last one was, and for which fee period.  The
maximum is compared before the period is.
-/
namespace StellarEduPay

/-- The configuration, with the calendar of the school's time zone. -/
structure ReminderConfig where
  maxCount : Nat := 5
  cooldownHours : Nat := 48
  logTtlMs : Nat := 7776000000
  emailConfigured : Bool := true
  twilioConfigured : Bool := false
  dayOf : Nat → Nat
  hourOf : Nat → Nat
  maxCount_pos : 0 < maxCount
  dayOf_mono : ∀ {a b}, a ≤ b → dayOf a ≤ dayOf b
  dayOf_ttl : ∀ {a b}, dayOf a = dayOf b → b < a + logTtlMs

def ReminderConfig.cooldownMs (cfg : ReminderConfig) : Nat := cfg.cooldownHours * 60 * 60 * 1000

/-- The fields of a school and of its `settings` that the job reads. -/
structure ReminderSchool where
  isActive : Bool := true
  reminderEnabled : Option Bool := none
  startHour : Option Nat := none
  endHour : Option Nat := none
  currentFeePeriod : Option String := none
  defaultChannel : Option String := none
  deriving DecidableEq, Repr

/-- The fields of a student that the job reads and writes. -/
structure ReminderStudent where
  feePaid : Bool := false
  reminderOptOut : Bool := false
  disputeHold : Bool := false
  parentEmail : Option String := none
  parentEmailSuppressed : Bool := false
  parentPhone : Option String := none
  academicYear : Option String := none
  feeAmount : Int := 0
  remainingBalance : Option Int := none
  reminderCount : Nat := 0
  lastReminderSentAt : Option Nat := none
  reminderPeriod : Option String := none
  deriving DecidableEq, Repr

def isInSendWindow (cfg : ReminderConfig) (now : Nat) (school : ReminderSchool) : Bool :=
  school.startHour.getD 8 ≤ cfg.hourOf now && cfg.hourOf now < school.endHour.getD 18

/-- The fee period reminders count toward, if there is any. -/
def currentPeriod (school : ReminderSchool) (student : ReminderStudent) : Option String :=
  (truthy school.currentFeePeriod).or (truthy student.academicYear)

namespace ReminderStudent
variable (cfg : ReminderConfig) (student : ReminderStudent)

def hasEmail : Bool := (truthy student.parentEmail).isSome && !student.parentEmailSuppressed

def hasPhone : Bool := (truthy student.parentPhone).isSome && cfg.twilioConfigured

/-- The query of a run: `Student.find`, for one student. -/
def listed : Bool :=
  !student.feePaid && !student.reminderOptOut &&
    (cfg.emailConfigured && student.parentEmail.isSome ||
      cfg.twilioConfigured && student.parentPhone.isSome)

/-- The balance a reminder is about. -/
def owed : Int := student.remainingBalance.getD (max 0 student.feeAmount)

end ReminderStudent

def isEligible (cfg : ReminderConfig) (now : Nat) (student : ReminderStudent)
    (school : ReminderSchool) : Bool :=
  if student.feePaid then false
  else if student.reminderOptOut then false
  else if student.disputeHold then false
  else if student.reminderCount ≥ cfg.maxCount then false
  else if !student.hasEmail && !student.hasPhone cfg then false
  else if (currentPeriod school student).any (student.reminderPeriod ≠ some ·) then true
  else match student.lastReminderSentAt with
    | some last => !decide (now < last + cfg.cooldownMs)
    | none => true

/-- The channels of a reminder. -/
structure ReminderChannels where
  email : Bool := false
  sms : Bool := false
  whatsapp : Bool := false
  deriving DecidableEq, Repr

def ReminderChannels.none? (channels : ReminderChannels) : Bool :=
  !channels.email && !channels.sms && !channels.whatsapp

def determineReminderChannels (cfg : ReminderConfig) (student : ReminderStudent)
    (school : ReminderSchool) : ReminderChannels :=
  let hasEmail := student.hasEmail
  let hasPhone := student.hasPhone cfg
  let channels : ReminderChannels :=
    match (truthy school.defaultChannel).getD "email" with
    | "sms" => { sms := hasPhone }
    | "whatsapp" => { whatsapp := hasPhone }
    | "email-sms" | "both" => { email := hasEmail, sms := hasPhone }
    | _ => { email := hasEmail }
  if channels.none? && hasPhone then { channels with sms := true } else channels

/-! ## Two parts of eligibility -/

/-- What does not depend on the reminders sent so far. -/
def ReminderStudent.reachable (cfg : ReminderConfig) (student : ReminderStudent) : Bool :=
  !student.feePaid && !student.reminderOptOut && !student.disputeHold &&
    (student.hasEmail || student.hasPhone cfg)

/-- What the tracking fields say about another reminder in a period. -/
def underQuota (cfg : ReminderConfig) (now : Nat) (period : Option String)
    (student : ReminderStudent) : Bool :=
  student.reminderCount < cfg.maxCount &&
    (period.any (student.reminderPeriod ≠ some ·) ||
      student.lastReminderSentAt.all fun last => last + cfg.cooldownMs ≤ now)

theorem isEligible_eq (cfg : ReminderConfig) (now : Nat) (student : ReminderStudent)
    (school : ReminderSchool) : isEligible cfg now student school =
      (student.reachable cfg && underQuota cfg now (currentPeriod school student) student) := by
  unfold isEligible ReminderStudent.reachable underQuota
  cases student.lastReminderSentAt <;> grind

/-- In a new period a student that can be reminded is, up to the maximum. -/
theorem isEligible_new_period {cfg : ReminderConfig} {now : Nat} {student : ReminderStudent}
    {school : ReminderSchool} {period : String} (hreachable : student.reachable cfg = true)
    (hperiod : currentPeriod school student = some period)
    (hnew : student.reminderPeriod ≠ some period) (hcount : student.reminderCount < cfg.maxCount) :
    isEligible cfg now student school = true := by
  rw [isEligible_eq, hreachable, hperiod]
  simp [underQuota, hnew, hcount]

end StellarEduPay
