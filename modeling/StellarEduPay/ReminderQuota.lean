import StellarEduPay.ReminderService
import StellarEduPay.Runs

/-! # The reminder quota (`processReminders`)

A run of the reminder job reads the school and then the student, decides, claims the calendar day in
the reminder log, sends, and records what it sent.  Each of these is a step of its own, and other
runs, payments and edits may come in between.

One student is followed through any number of runs.  What it was sent, which no document keeps, is
recorded beside the documents, with the resets of its tracking fields.
-/
namespace StellarEduPay
open Runs Function

/-! ## The job -/

/-- A decision to remind: the documents it was taken on, when, and for which day. -/
structure ReminderPlan where
  school : ReminderSchool
  student : ReminderStudent
  decidedAt : Nat
  windowStart : Nat
  deriving DecidableEq, Repr

def ReminderPlan.period (plan : ReminderPlan) : Option String := currentPeriod plan.school plan.student

/-- Where a run stands with the student. -/
inductive ReminderRun
  | school (school : ReminderSchool)
  | loaded (school : ReminderSchool) (student : ReminderStudent)
  | decided (plan : ReminderPlan)
  | claimed (plan : ReminderPlan)
  | sent (plan : ReminderPlan)
  deriving DecidableEq, Repr

/-- A day was claimed and the run has not got past the student yet. -/
def ReminderRun.underway : ReminderRun → Bool
  | .claimed _ | .sent _ => true
  | .school _ | .loaded .. | .decided _ => false

/-- What happened to the student: a reminder, for a period, or a reset of its tracking fields. -/
inductive ReminderEvent
  | sent (time : Nat) (period : Option String)
  | reset
  deriving DecidableEq, Repr

/-- The documents of a school and a student, the reminder log of the student (the days that were
claimed, and when), where each run stands, and the history, most recent first. -/
structure ReminderSystem (n : Nat) where
  clock : Nat
  school : ReminderSchool
  student : ReminderStudent
  log : List (Nat × Nat)
  run : Fin n → Option ReminderRun
  history : List ReminderEvent

/-- The steps of a run; a run gives up on the student on an error, when nothing could be sent, and
when it crashes.  The other steps are those of the clock, of the log's TTL index and of the rest of
the application. -/
inductive ReminderAction (n : Nat)
  | tick (ms : Nat)
  | readSchool (pid : Fin n)
  | readStudent (pid : Fin n)
  | decide (pid : Fin n)
  | claim (pid : Fin n)
  | deliver (pid : Fin n)
  | record (pid : Fin n)
  | giveUp (pid : Fin n)
  | expire
  | editSchool (school : ReminderSchool)
  | editStudent (student : ReminderStudent)
  | resetTracking

/-- `student` with the tracking fields of `tracked`. -/
def ReminderStudent.withTracking (student tracked : ReminderStudent) : ReminderStudent :=
  { student with
    reminderCount := tracked.reminderCount
    lastReminderSentAt := tracked.lastReminderSentAt
    reminderPeriod := tracked.reminderPeriod }

/-- The update after a reminder. -/
def ReminderStudent.recorded (student : ReminderStudent) (now : Nat) (period : Option String) :
    ReminderStudent :=
  { student with
    reminderCount := student.reminderCount + 1
    lastReminderSentAt := some now
    reminderPeriod := period }

def ReminderSystem.start {n : Nat} (clock : Nat) (school : ReminderSchool) (student : ReminderStudent) :
    ReminderSystem n where
  clock := clock
  school := school
  student := student.withTracking {}
  log := []
  run := fun _ => none
  history := []

namespace ReminderSystem
variable {n : Nat} (s : ReminderSystem n)

def period : Option String := currentPeriod s.school s.student

def setRun (pid : Fin n) (run : Option ReminderRun) : ReminderSystem n :=
  { s with run := update s.run pid run }

variable {s} {pid other : Fin n} {run : Option ReminderRun}

@[simp] theorem setRun_self : (s.setRun pid run).run pid = run := update_self ..

theorem setRun_of_ne (h : other ≠ pid) : (s.setRun pid run).run other = s.run other :=
  update_of_ne h ..

/-- A run after a step of `pid` is what that step made of it, or as it was. -/
theorem setRun_cases {r : ReminderRun} (h : (s.setRun pid run).run other = some r) :
    (other = pid ∧ run = some r) ∨ (other ≠ pid ∧ s.run other = some r) := by
  by_cases heq : other = pid
  · subst heq
    exact Or.inl ⟨rfl, setRun_self.symm.trans h⟩
  · exact Or.inr ⟨heq, (setRun_of_ne heq).symm.trans h⟩

/-- With no other reminder under way, the one under way is the one of this step. -/
theorem underway_setRun {new r : ReminderRun}
    (hothers : ∀ other r, s.run other = some r → r.underway = true → other = pid)
    (h : (s.setRun pid (some new)).run other = some r) (hunder : r.underway = true) :
    other = pid ∧ r = new := by
  rcases setRun_cases h with ⟨heq, hnew⟩ | ⟨hne, hold⟩
  · exact ⟨heq, (Option.some.inj hnew).symm⟩
  · exact absurd (hothers other r hold hunder) hne

end ReminderSystem

def reminderStep {n : Nat} (cfg : ReminderConfig) (s : ReminderSystem n) :
    ReminderAction n → Option (ReminderSystem n)
  | .tick ms => some { s with clock := s.clock + ms }
  | .readSchool pid =>
    if s.run pid = none ∧ s.school.isActive ∧ s.school.reminderEnabled ≠ some false ∧
        isInSendWindow cfg s.clock s.school then
      some (s.setRun pid (some (.school s.school)))
    else none
  | .readStudent pid =>
    match s.run pid with
    | some (.school school) =>
      some (s.setRun pid (if s.student.listed cfg then some (.loaded school s.student) else none))
    | _ => none
  | .decide pid =>
    match s.run pid with
    | some (.loaded school student) =>
      some (s.setRun pid (if isEligible cfg s.clock student school && decide (0 < student.owed) then
        some (.decided ⟨school, student, s.clock, cfg.dayOf s.clock⟩) else none))
    | _ => none
  | .claim pid =>
    match s.run pid with
    | some (.decided plan) =>
      if s.log.any (·.1 = plan.windowStart) then some (s.setRun pid none)
      else some { s.setRun pid (some (.claimed plan)) with log := (plan.windowStart, s.clock) :: s.log }
    | _ => none
  | .deliver pid =>
    match s.run pid with
    | some (.claimed plan) =>
      if (determineReminderChannels cfg plan.student plan.school).none? then none
      else some { s.setRun pid (some (.sent plan)) with
        history := .sent s.clock plan.period :: s.history }
    | _ => none
  | .record pid =>
    match s.run pid with
    | some (.sent plan) =>
      some { s.setRun pid none with student := s.student.recorded s.clock plan.period }
    | _ => none
  | .giveUp pid => if s.run pid = none then none else some (s.setRun pid none)
  | .expire => some { s with log := s.log.filter fun entry => s.clock < entry.2 + cfg.logTtlMs }
  | .editSchool school => some { s with school := school }
  | .editStudent student => some { s with student := student.withTracking s.student }
  | .resetTracking => some { s with
      student := { s.student with reminderCount := 0, lastReminderSentAt := none }
      history := .reset :: s.history }

/-! ## What is to hold -/

def ReminderEvent.sentIn (period : Option String) : ReminderEvent → Bool
  | .sent _ p => p = period
  | .reset => false

@[simp] theorem sentIn_sent (t : Nat) (p period : Option String) :
    (ReminderEvent.sent t p).sentIn period = decide (p = period) := rfl

@[simp] theorem sentIn_reset (period : Option String) : ReminderEvent.reset.sentIn period = false := rfl

/-- **The quota**: at most one reminder a day, at most the maximum in a period, two in a period never
within the cooldown; and in a new period a student that can be reminded is eligible, whatever it
was sent before. -/
structure ReminderQuota {n : Nat} (cfg : ReminderConfig) (s : ReminderSystem n) : Prop where
  daily : s.history.Pairwise fun newer older => ∀ t p t' p', newer = .sent t p →
    older = .sent t' p' → cfg.dayOf t ≠ cfg.dayOf t'
  maximum : ∀ period, s.history.countP (·.sentIn period) ≤ cfg.maxCount
  cooldown : s.history.Pairwise fun newer older => ∀ t t' p, newer = .sent t p →
    older = .sent t' p → t' + cfg.cooldownMs ≤ t
  renewed : ∀ period, s.period = some period → s.student.reminderPeriod ≠ some period →
    s.student.reachable cfg = true → isEligible cfg s.clock s.student s.school = true

/-! ## Orderly runs -/

/-- Since the first reminder for a period there was no reset, and no reminder for another one. -/
def unbroken (history : List ReminderEvent) (period : Option String) : Bool :=
  (history.dropWhile (·.sentIn period)).all (!·.sentIn period)

/-- A day is claimed only while no other run has a reminder to the student under way, and for a
reminder that the stored tracking fields allow as well, in a period that is unbroken; a reminder is
sent on the day it was claimed for, and is recorded; and the period does not change once the maximum
is reached, nor before the reminder that reaches it is recorded. -/
def orderly {n : Nat} (cfg : ReminderConfig) (s : ReminderSystem n) : ReminderAction n → Bool
  | .claim pid =>
    match s.run pid with
    | some (.decided plan) => decide (∀ other, (s.run other).all (!·.underway)) &&
        underQuota cfg plan.decidedAt plan.period s.student && unbroken s.history plan.period
    | _ => true
  | .deliver pid =>
    match s.run pid with
    | some (.claimed plan) => cfg.dayOf s.clock = plan.windowStart
    | _ => true
  | .record pid =>
    match s.run pid with
    | some (.sent plan) => plan.period = s.period || s.student.reminderCount + 1 < cfg.maxCount
    | _ => true
  | .giveUp pid =>
    match s.run pid with
    | some (.sent _) => false
    | _ => true
  | .editSchool school =>
    currentPeriod school s.student = s.period || s.student.reminderCount < cfg.maxCount
  | .editStudent student =>
    currentPeriod s.school student = s.period || s.student.reminderCount < cfg.maxCount
  | .tick _ | .readSchool _ | .readStudent _ | .decide _ | .expire | .resetTracking => true

/-! ## What the tracking fields account for -/

/-- In an unbroken period the tracking fields account for the reminders sent. -/
def Accounted (history : List ReminderEvent) (student : ReminderStudent) : Prop :=
  ∀ period, unbroken history period = true →
    history.countP (·.sentIn period) ≤ student.reminderCount ∧
    ∀ t, .sent t period ∈ history → student.reminderPeriod = period ∧
      ∃ last, student.lastReminderSentAt = some last ∧ t ≤ last

/-- A period is broken by anything else after one of its reminders. -/
theorem not_sentIn_of_unbroken {history : List ReminderEvent} {e : ReminderEvent}
    {period : Option String} (h : unbroken (e :: history) period = true)
    (he : e.sentIn period = false) : ∀ e' ∈ history, e'.sentIn period = false := by
  simp only [unbroken, List.dropWhile_cons, he, Bool.false_eq_true, if_false, List.all_cons,
    Bool.and_eq_true, List.all_eq_true, Bool.not_eq_true'] at h
  exact h.2

theorem accounted_of_not_sentIn {history : List ReminderEvent} {student : ReminderStudent}
    {period : Option String} (h : ∀ e ∈ history, e.sentIn period = false) :
    history.countP (·.sentIn period) ≤ student.reminderCount ∧
    ∀ t, .sent t period ∈ history → student.reminderPeriod = period ∧
      ∃ last, student.lastReminderSentAt = some last ∧ t ≤ last := by
  constructor
  · have hzero : history.countP (·.sentIn period) = 0 := by
      refine List.countP_eq_zero.mpr fun e he => ?_
      rw [h e he]
      exact Bool.false_ne_true
    omega
  · intro t ht
    have hsent := h _ ht
    simp at hsent

theorem Accounted.reset (history : List ReminderEvent) (student : ReminderStudent) :
    Accounted (.reset :: history) student := by
  intro period hunbroken
  refine accounted_of_not_sentIn fun e he => ?_
  rcases List.mem_cons.mp he with rfl | he
  · rfl
  · exact not_sentIn_of_unbroken hunbroken rfl e he

/-- The update after a reminder accounts for it. -/
theorem Accounted.recorded {history : List ReminderEvent} {student : ReminderStudent}
    (h : Accounted history student) {clock now : Nat} {plan : Option String} (hnow : clock ≤ now)
    (hpast : ∀ t p, .sent t p ∈ history → t ≤ clock) :
    Accounted (.sent clock plan :: history) (student.recorded now plan) := by
  intro period hunbroken
  by_cases hperiod : plan = period
  · subst hperiod
    have hsame : unbroken history plan = true := by
      simpa [unbroken] using hunbroken
    obtain ⟨hcount, -⟩ := h plan hsame
    constructor
    · simp only [List.countP_cons, sentIn_sent, decide_true, if_true, ReminderStudent.recorded]
      omega
    · intro t ht
      refine ⟨rfl, now, rfl, ?_⟩
      rcases List.mem_cons.mp ht with heq | ht
      · cases heq
        exact hnow
      · exact Nat.le_trans (hpast t _ ht) hnow
  · refine accounted_of_not_sentIn fun e he => ?_
    have hother : (ReminderEvent.sent clock plan).sentIn period = false := by
      simp [hperiod]
    rcases List.mem_cons.mp he with rfl | he
    · exact hother
    · exact not_sentIn_of_unbroken hunbroken hother e he

/-- Where the tracking fields account for the reminders of a period, they keep the next one under the
maximum and out of the cooldown. -/
theorem Accounted.under_quota {cfg : ReminderConfig} {history : List ReminderEvent}
    {student : ReminderStudent} {period : Option String} {now : Nat}
    (h : Accounted history student) (hunbroken : unbroken history period = true)
    (hquota : underQuota cfg now period student = true) :
    history.countP (·.sentIn period) < cfg.maxCount ∧
      ∀ t, .sent t period ∈ history → t + cfg.cooldownMs ≤ now := by
  obtain ⟨hcount, hsent⟩ := h period hunbroken
  simp only [underQuota, Bool.and_eq_true, decide_eq_true_eq, Bool.or_eq_true] at hquota
  refine ⟨by omega, fun t ht => ?_⟩
  obtain ⟨hperiod, last, hlast, hle⟩ := hsent t ht
  -- a reminder was sent in the period, so it is not a new one
  have hcooldown : last + cfg.cooldownMs ≤ now := by
    rcases hquota.2 with hnew | hcool
    · cases period <;> simp [hperiod] at hnew
    · simpa [hlast] using hcool
  omega

/-! ## The invariant of an orderly run -/

/-- A day that was claimed for a plan: nothing was sent on it, and one more reminder is within the
quota. -/
structure Claimed {n : Nat} (cfg : ReminderConfig) (s : ReminderSystem n) (plan : ReminderPlan) :
    Prop where
  entry : ∃ c ≤ s.clock, plan.windowStart ≤ cfg.dayOf c ∧
    ((plan.windowStart, c) ∈ s.log ∨ c + cfg.logTtlMs ≤ s.clock)
  fresh : ∀ t p, .sent t p ∈ s.history → cfg.dayOf t = plan.windowStart →
    plan.windowStart < cfg.dayOf s.clock
  under : s.history.countP (·.sentIn plan.period) < cfg.maxCount
  cooled : ∀ t, .sent t plan.period ∈ s.history → t + cfg.cooldownMs ≤ s.clock

/-- **The invariant of an orderly run.**  The history is within the quota; the log knows the days of
its reminders, until they are over; and the tracking fields account for it, up to the one reminder
that may be under way. -/
structure ReminderInv {n : Nat} (cfg : ReminderConfig) (s : ReminderSystem n) : Prop where
  daily : s.history.Pairwise fun newer older => ∀ t p t' p', newer = .sent t p →
    older = .sent t' p' → cfg.dayOf t ≠ cfg.dayOf t'
  maximum : ∀ period, s.history.countP (·.sentIn period) ≤ cfg.maxCount
  cooldown : s.history.Pairwise fun newer older => ∀ t t' p, newer = .sent t p →
    older = .sent t' p → t' + cfg.cooldownMs ≤ t
  renewing : ∀ period, s.period = some period → s.student.reminderPeriod ≠ some period →
    s.student.reminderCount < cfg.maxCount
  past : ∀ t p, .sent t p ∈ s.history → t ≤ s.clock
  logged : ∀ t p, .sent t p ∈ s.history → ∃ c ≤ s.clock, cfg.dayOf c = cfg.dayOf t ∧
    ((cfg.dayOf t, c) ∈ s.log ∨ c + cfg.logTtlMs ≤ s.clock)
  alone : ∀ pid pid' r r', s.run pid = some r → s.run pid' = some r' → r.underway = true →
    r'.underway = true → pid = pid'
  decided : ∀ pid plan, s.run pid = some (.decided plan) →
    plan.windowStart = cfg.dayOf plan.decidedAt ∧ plan.decidedAt ≤ s.clock
  claimed : ∀ pid plan, s.run pid = some (.claimed plan) → Claimed cfg s plan
  idle : (∀ pid plan, s.run pid ≠ some (.sent plan)) → Accounted s.history s.student
  unrecorded : ∀ pid plan, s.run pid = some (.sent plan) → ∀ now, s.clock ≤ now →
    Accounted s.history (s.student.recorded now plan.period)

theorem ReminderInv.quota {n : Nat} {cfg : ReminderConfig} {s : ReminderSystem n}
    (h : ReminderInv cfg s) : ReminderQuota cfg s where
  daily := h.daily
  maximum := h.maximum
  cooldown := h.cooldown
  renewed period hperiod hnew hreachable :=
    isEligible_new_period hreachable hperiod hnew (h.renewing period hperiod hnew)

section Step
variable {n : Nat} {cfg : ReminderConfig} {s t : ReminderSystem n} {pid : Fin n}

/-- A decision is of the clock's past, whichever run has made it. -/
theorem ReminderInv.decided_setRun (h : ReminderInv cfg s) (run : Option ReminderRun)
    (hrun : ∀ plan, run = some (.decided plan) →
      plan.windowStart = cfg.dayOf plan.decidedAt ∧ plan.decidedAt ≤ s.clock)
    (p : Fin n) (plan : ReminderPlan) (hp : (s.setRun pid run).run p = some (.decided plan)) :
    plan.windowStart = cfg.dayOf plan.decidedAt ∧ plan.decidedAt ≤ s.clock := by
  rcases ReminderSystem.setRun_cases hp with ⟨-, hnew⟩ | ⟨-, hold⟩
  · exact hrun plan hnew
  · exact h.decided p plan hold

/-- A run moves on without claiming, or gives up before it has sent. -/
theorem ReminderInv.set_run (h : ReminderInv cfg s) {run : Option ReminderRun}
    (hrun : ∀ r ∈ run, r.underway = false)
    (hdecided : ∀ plan, run = some (.decided plan) →
      plan.windowStart = cfg.dayOf plan.decidedAt ∧ plan.decidedAt ≤ s.clock)
    (hsent : ∀ plan, s.run pid ≠ some (.sent plan)) : ReminderInv cfg (s.setRun pid run) := by
  have hold : ∀ p r, (s.setRun pid run).run p = some r → r.underway = true → s.run p = some r := by
    intro p r hr hunder
    rcases ReminderSystem.setRun_cases hr with ⟨-, hnew⟩ | ⟨-, hold⟩
    · exact absurd hunder (Bool.eq_false_iff.mp (hrun r hnew))
    · exact hold
  refine ⟨h.daily, h.maximum, h.cooldown, h.renewing, h.past, h.logged, ?_,
    h.decided_setRun run hdecided, ?_, ?_, ?_⟩
  · intro p p' r r' hr hr' hunder hunder'
    exact h.alone p p' r r' (hold p r hr hunder) (hold p' r' hr' hunder') hunder hunder'
  · intro p plan hp
    obtain ⟨hentry, hfresh, hunder, hcooled⟩ := h.claimed p plan (hold p _ hp rfl)
    exact ⟨hentry, hfresh, hunder, hcooled⟩
  · intro hnone
    refine h.idle fun p plan hp => ?_
    by_cases heq : p = pid
    · subst heq
      exact hsent plan hp
    · exact hnone p plan ((ReminderSystem.setRun_of_ne heq).trans hp)
  · intro p plan hp
    exact h.unrecorded p plan (hold p _ hp rfl)

theorem ReminderInv.tick_step (h : ReminderInv cfg s) (ms : Nat) :
    ReminderInv cfg { s with clock := s.clock + ms } := by
  have hle : s.clock ≤ s.clock + ms := Nat.le_add_right ..
  have hgone : ∀ {entry : Nat × Nat}, entry ∈ s.log ∨ entry.2 + cfg.logTtlMs ≤ s.clock →
      entry ∈ s.log ∨ entry.2 + cfg.logTtlMs ≤ s.clock + ms := by
    intro entry hor
    exact hor.imp_right fun hgone => Nat.le_trans hgone hle
  refine ⟨h.daily, h.maximum, h.cooldown, h.renewing, ?_, ?_, h.alone, ?_, ?_, h.idle, ?_⟩
  · exact fun t p ht => Nat.le_trans (h.past t p ht) hle
  · intro t p ht
    obtain ⟨c, hc, hday, hentry⟩ := h.logged t p ht
    exact ⟨c, Nat.le_trans hc hle, hday, hgone hentry⟩
  · intro p plan hp
    obtain ⟨hday, hdecided⟩ := h.decided p plan hp
    exact ⟨hday, Nat.le_trans hdecided hle⟩
  · intro p plan hp
    obtain ⟨⟨c, hc, hday, hentry⟩, hfresh, hunder, hcooled⟩ := h.claimed p plan hp
    exact ⟨⟨c, Nat.le_trans hc hle, hday, hgone hentry⟩,
      fun t q ht hsame => Nat.lt_of_lt_of_le (hfresh t q ht hsame) (cfg.dayOf_mono hle), hunder,
      fun t ht => Nat.le_trans (hcooled t ht) hle⟩
  · intro p plan hp now hnow
    exact h.unrecorded p plan hp now (Nat.le_trans hle hnow)

theorem ReminderInv.expire_step (h : ReminderInv cfg s) :
    ReminderInv cfg { s with log := s.log.filter fun entry => s.clock < entry.2 + cfg.logTtlMs } := by
  have hgone : ∀ {entry : Nat × Nat}, entry ∈ s.log ∨ entry.2 + cfg.logTtlMs ≤ s.clock →
      entry ∈ s.log.filter (fun entry => s.clock < entry.2 + cfg.logTtlMs) ∨
        entry.2 + cfg.logTtlMs ≤ s.clock := by
    intro entry hor
    by_cases hexpired : entry.2 + cfg.logTtlMs ≤ s.clock
    · exact Or.inr hexpired
    · refine Or.inl (List.mem_filter.mpr ⟨hor.resolve_right hexpired, ?_⟩)
      simpa using hexpired
  refine ⟨h.daily, h.maximum, h.cooldown, h.renewing, h.past, ?_, h.alone, h.decided, ?_, h.idle,
    h.unrecorded⟩
  · intro t p ht
    obtain ⟨c, hc, hday, hentry⟩ := h.logged t p ht
    exact ⟨c, hc, hday, hgone hentry⟩
  · intro p plan hp
    obtain ⟨⟨c, hc, hday, hentry⟩, hfresh, hunder, hcooled⟩ := h.claimed p plan hp
    exact ⟨⟨c, hc, hday, hgone hentry⟩, hfresh, hunder, hcooled⟩

/-- The documents are edited, but not the tracking fields. -/
theorem ReminderInv.edit_step (h : ReminderInv cfg s) {school : ReminderSchool}
    {student : ReminderStudent} (hperiod : currentPeriod school student = s.period ∨
      s.student.reminderCount < cfg.maxCount) :
    ReminderInv cfg { s with school := school, student := student.withTracking s.student } := by
  refine ⟨h.daily, h.maximum, h.cooldown, ?_, h.past, h.logged, h.alone, h.decided, ?_, h.idle,
    h.unrecorded⟩
  · intro period hcurrent hnew
    rcases hperiod with hsame | hunder
    · exact h.renewing period (hsame.symm.trans hcurrent) hnew
    · exact hunder
  · intro p plan hp
    obtain ⟨hentry, hfresh, hunder, hcooled⟩ := h.claimed p plan hp
    exact ⟨hentry, hfresh, hunder, hcooled⟩

theorem ReminderInv.reset_step (h : ReminderInv cfg s) :
    ReminderInv cfg { s with
      student := { s.student with reminderCount := 0, lastReminderSentAt := none }
      history := .reset :: s.history } := by
  have hmem : ∀ {t p}, .sent t p ∈ ReminderEvent.reset :: s.history → .sent t p ∈ s.history := by
    intro t p ht
    simpa using ht
  refine ⟨?_, ?_, ?_, fun _ _ _ => cfg.maxCount_pos, fun t p ht => h.past t p (hmem ht),
    fun t p ht => h.logged t p (hmem ht), h.alone, h.decided, ?_, fun _ => .reset _ _, ?_⟩
  · refine List.pairwise_cons.mpr ⟨fun _ _ t p t' p' hnewer => ?_, h.daily⟩
    cases hnewer
  · intro period
    simpa using h.maximum period
  · refine List.pairwise_cons.mpr ⟨fun _ _ t t' p hnewer => ?_, h.cooldown⟩
    cases hnewer
  · intro p plan hp
    obtain ⟨hentry, hfresh, hunder, hcooled⟩ := h.claimed p plan hp
    exact ⟨hentry, fun t q ht => hfresh t q (hmem ht), by simpa using hunder,
      fun t ht => hcooled t (hmem ht)⟩
  · exact fun p plan hp now hnow => .reset _ _

/-- A day is claimed, with no other reminder under way. -/
theorem ReminderInv.claim_step (h : ReminderInv cfg s) {plan : ReminderPlan}
    (hrun : s.run pid = some (.decided plan)) (hnew : ∀ c, (plan.windowStart, c) ∉ s.log)
    (halone : ∀ other r, s.run other = some r → r.underway = false)
    (hquota : underQuota cfg plan.decidedAt plan.period s.student = true)
    (hunbroken : unbroken s.history plan.period = true) :
    ReminderInv cfg { s.setRun pid (some (.claimed plan)) with
      log := (plan.windowStart, s.clock) :: s.log } := by
  obtain ⟨hday, hdecided⟩ := h.decided pid plan hrun
  have hidle : ∀ other plan', s.run other ≠ some (.sent plan') := by
    intro other plan' hother
    have hnot := halone other _ hother
    cases hnot
  have hunderway : ∀ p r, (s.setRun pid (some (.claimed plan))).run p = some r → r.underway = true →
      p = pid ∧ r = .claimed plan := fun p r => ReminderSystem.underway_setRun
    fun other r hother hunder => absurd hunder (Bool.eq_false_iff.mp (halone other r hother))
  obtain ⟨hmax, hcooled⟩ := (h.idle hidle).under_quota hunbroken hquota
  refine ⟨h.daily, h.maximum, h.cooldown, h.renewing, h.past, ?_, ?_, ?_, ?_, ?_, ?_⟩
  · intro t p ht
    obtain ⟨c, hc, hsame, hentry⟩ := h.logged t p ht
    exact ⟨c, hc, hsame, hentry.imp_left (List.mem_cons_of_mem _)⟩
  · intro p p' r r' hr hr' hunder hunder'
    exact (hunderway p r hr hunder).1.trans (hunderway p' r' hr' hunder').1.symm
  · exact h.decided_setRun (some (.claimed plan)) fun _ hnew => by cases hnew
  · intro p plan' hp
    obtain ⟨-, heq⟩ := hunderway p _ hp rfl
    rw [ReminderRun.claimed.inj heq]
    refine ⟨⟨s.clock, Nat.le_refl _, ?_, Or.inl List.mem_cons_self⟩, ?_, hmax,
      fun t ht => Nat.le_trans (hcooled t ht) hdecided⟩
    · rw [hday]
      exact cfg.dayOf_mono hdecided
    · -- a reminder of that day has lost its entry, so the day is over
      intro t q ht hsame
      obtain ⟨c, hc, hdayc, hentry⟩ := h.logged t q ht
      rw [hsame] at hdayc hentry
      have hgone : c + cfg.logTtlMs ≤ s.clock := hentry.resolve_left (hnew c)
      have hle : plan.windowStart ≤ cfg.dayOf s.clock := hdayc ▸ cfg.dayOf_mono hc
      refine Nat.lt_of_le_of_ne hle fun heq => ?_
      have hlt : s.clock < c + cfg.logTtlMs := cfg.dayOf_ttl (hdayc.trans heq)
      omega
  · exact fun _ => h.idle hidle
  · intro p plan' hp
    obtain ⟨-, heq⟩ := hunderway p _ hp rfl
    cases heq

/-- A reminder is sent on the day that was claimed for it. -/
theorem ReminderInv.deliver_step (h : ReminderInv cfg s) {plan : ReminderPlan}
    (hrun : s.run pid = some (.claimed plan)) (htoday : cfg.dayOf s.clock = plan.windowStart) :
    ReminderInv cfg { s.setRun pid (some (.sent plan)) with
      history := .sent s.clock plan.period :: s.history } := by
  obtain ⟨⟨c, hc, hday, hentry⟩, hfresh, hunder, hcooled⟩ := h.claimed pid plan hrun
  have hdayc : cfg.dayOf c = plan.windowStart :=
    Nat.le_antisymm (htoday ▸ cfg.dayOf_mono hc) hday
  -- the run is the only one with a reminder under way
  have hunderway : ∀ p r, (s.setRun pid (some (.sent plan))).run p = some r → r.underway = true →
      p = pid ∧ r = .sent plan := fun p r => ReminderSystem.underway_setRun
    fun other r hother hunder => h.alone other pid r _ hother hrun hunder rfl
  have hidle : ∀ other plan', s.run other ≠ some (.sent plan') := by
    intro other plan' hother
    obtain rfl := h.alone other pid _ _ hother hrun rfl rfl
    rw [hrun] at hother
    cases hother
  refine ⟨?_, ?_, ?_, h.renewing, ?_, ?_, ?_, ?_, ?_, ?_, ?_⟩
  · refine List.pairwise_cons.mpr ⟨fun e he t p t' p' hnewer holder => ?_, h.daily⟩
    cases hnewer
    subst holder
    intro hsame
    have hlt := hfresh t' p' he (hsame.symm.trans htoday)
    omega
  · intro period
    rw [List.countP_cons]
    by_cases hperiod : plan.period = period
    · subst hperiod
      simp only [sentIn_sent, decide_true, if_true]
      omega
    · simpa [hperiod] using h.maximum period
  · refine List.pairwise_cons.mpr ⟨fun e he t t' p hnewer holder => ?_, h.cooldown⟩
    cases hnewer
    subst holder
    exact hcooled t' he
  · intro t p ht
    rcases List.mem_cons.mp ht with heq | ht
    · cases heq
      exact Nat.le_refl _
    · exact h.past t p ht
  · intro t p ht
    rcases List.mem_cons.mp ht with heq | ht
    · cases heq
      rw [htoday]
      exact ⟨c, hc, hdayc, hentry⟩
    · exact h.logged t p ht
  · intro p p' r r' hr hr' hunder hunder'
    exact (hunderway p r hr hunder).1.trans (hunderway p' r' hr' hunder').1.symm
  · exact h.decided_setRun (some (.sent plan)) fun _ hnew => by cases hnew
  · intro p plan' hp
    obtain ⟨-, heq⟩ := hunderway p _ hp rfl
    cases heq
  · intro hnone
    exact absurd ReminderSystem.setRun_self (hnone pid plan)
  · intro p plan' hp now hnow
    obtain ⟨-, heq⟩ := hunderway p _ hp rfl
    rw [ReminderRun.sent.inj heq]
    exact (h.idle hidle).recorded hnow h.past

/-- The reminder under way is recorded. -/
theorem ReminderInv.record_step (h : ReminderInv cfg s) {plan : ReminderPlan}
    (hrun : s.run pid = some (.sent plan))
    (hperiod : plan.period = s.period ∨ s.student.reminderCount + 1 < cfg.maxCount) :
    ReminderInv cfg { s.setRun pid none with
      student := s.student.recorded s.clock plan.period } := by
  have hnone : ∀ p r, (s.setRun pid none).run p = some r → p ≠ pid ∧ s.run p = some r := by
    intro p r hr
    exact (ReminderSystem.setRun_cases hr).resolve_left (by simp)
  have hothers : ∀ p r, (s.setRun pid none).run p = some r → r.underway = false := by
    intro p r hr
    obtain ⟨hp, hold⟩ := hnone p r hr
    refine Bool.eq_false_iff.mpr fun hunder => hp ?_
    exact h.alone p pid r _ hold hrun hunder rfl
  refine ⟨h.daily, h.maximum, h.cooldown, ?_, h.past, h.logged, ?_, ?_, ?_, ?_, ?_⟩
  · intro period hcurrent hnew
    rcases hperiod with hsame | hunder
    · exact absurd (hsame.trans hcurrent) hnew
    · exact hunder
  · intro p p' r r' hr hr' hunder
    rw [hothers p r hr] at hunder
    cases hunder
  · exact fun p plan' hp => h.decided p plan' (hnone p _ hp).2
  · intro p plan' hp
    cases hothers p _ hp
  · exact fun _ => h.unrecorded pid plan hrun s.clock (Nat.le_refl _)
  · intro p plan' hp
    cases hothers p _ hp

theorem ReminderInv.step {a : ReminderAction n} (h : ReminderInv cfg s)
    (hok : orderly cfg s a = true) (hstep : reminderStep cfg s a = some t) : ReminderInv cfg t := by
  cases a with
  | tick ms =>
    obtain rfl : _ = t := Option.some.inj hstep
    exact h.tick_step ms
  | readSchool pid =>
    simp only [reminderStep] at hstep
    split at hstep
    · rename_i hread
      obtain rfl : _ = t := Option.some.inj hstep
      exact h.set_run (by simp [ReminderRun.underway]) (by simp) (by simp [hread.1])
    · cases hstep
  | readStudent pid =>
    simp only [reminderStep] at hstep
    split at hstep
    · rename_i school hrun
      obtain rfl : _ = t := Option.some.inj hstep
      refine h.set_run ?_ ?_ (by simp [hrun])
      · split <;> simp [ReminderRun.underway]
      · split <;> simp
    · cases hstep
  | decide pid =>
    simp only [reminderStep] at hstep
    split at hstep
    · rename_i school student hrun
      obtain rfl : _ = t := Option.some.inj hstep
      refine h.set_run ?_ ?_ (by simp [hrun])
      · split <;> simp [ReminderRun.underway]
      · intro plan hplan
        split at hplan
        · obtain rfl := ReminderRun.decided.inj (Option.some.inj hplan)
          exact ⟨rfl, Nat.le_refl _⟩
        · cases hplan
    · cases hstep
  | claim pid =>
    simp only [reminderStep] at hstep
    split at hstep
    · rename_i plan hrun
      split at hstep
      · obtain rfl : _ = t := Option.some.inj hstep
        exact h.set_run (by simp) (by simp) (by simp [hrun])
      · rename_i hnew
        obtain rfl : _ = t := Option.some.inj hstep
        simp only [orderly, hrun, Bool.and_eq_true, decide_eq_true_eq] at hok
        obtain ⟨⟨halone, hquota⟩, hunbroken⟩ := hok
        refine h.claim_step hrun (fun c hc => hnew ?_) (fun other r hr => ?_) hquota hunbroken
        · exact List.any_eq_true.mpr ⟨_, hc, by simp⟩
        · have hother := halone other
          rw [hr] at hother
          simpa using hother
    · cases hstep
  | deliver pid =>
    simp only [reminderStep] at hstep
    split at hstep
    · rename_i plan hrun
      split at hstep
      · cases hstep
      · obtain rfl : _ = t := Option.some.inj hstep
        exact h.deliver_step hrun (by simpa [orderly, hrun] using hok)
    · cases hstep
  | record pid =>
    simp only [reminderStep] at hstep
    split at hstep
    · rename_i plan hrun
      obtain rfl : _ = t := Option.some.inj hstep
      exact h.record_step hrun (by simpa [orderly, hrun] using hok)
    · cases hstep
  | giveUp pid =>
    simp only [reminderStep] at hstep
    split at hstep
    · cases hstep
    · obtain rfl : _ = t := Option.some.inj hstep
      refine h.set_run (by simp) (by simp) fun plan hrun => ?_
      simp [orderly, hrun] at hok
  | expire =>
    obtain rfl : _ = t := Option.some.inj hstep
    exact h.expire_step
  | editSchool school =>
    obtain rfl : _ = t := Option.some.inj hstep
    have hedit : ReminderInv cfg { s with
        school := school, student := s.student.withTracking s.student } :=
      h.edit_step (by simpa [orderly] using hok)
    exact hedit
  | editStudent student =>
    obtain rfl : _ = t := Option.some.inj hstep
    have hedit : ReminderInv cfg { s with
        school := s.school, student := student.withTracking s.student } :=
      h.edit_step (by simpa [orderly] using hok)
    exact hedit
  | resetTracking =>
    obtain rfl : _ = t := Option.some.inj hstep
    exact h.reset_step

end Step

/-- **The reminder quota** holds in every orderly run. -/
theorem reminder_quota_along_runs {n : Nat} {cfg : ReminderConfig} {clock : Nat}
    {school : ReminderSchool} {student : ReminderStudent} {s : ReminderSystem n}
    (hrun : Reach (reminderStep cfg) (fun s a => orderly cfg s a = true)
      (.start clock school student) s) : ReminderQuota cfg s := by
  have hstart : ReminderInv cfg (.start clock school student : ReminderSystem n) := by
    refine ⟨?_, ?_, ?_, fun _ _ _ => cfg.maxCount_pos, ?_, ?_, ?_, ?_, ?_, fun _ _ _ => ?_, ?_⟩ <;>
      simp [ReminderSystem.start]
  have hinv : ReminderInv cfg s := hrun.invariant hstart fun h hok hstep => h.step hok hstep
  exact hinv.quota

/-! ## A school in UTC -/

def utcReminders : ReminderConfig where
  dayOf ms := ms / 86400000
  hourOf ms := ms / 3600000 % 24
  maxCount_pos := by decide
  dayOf_mono h := Nat.div_le_div_right h
  dayOf_ttl h := by omega

def autumnTerm : ReminderSchool := { currentFeePeriod := some "2025-T1" }

def springTerm : ReminderSchool := { currentFeePeriod := some "2025-T2" }

def unpaidStudent : ReminderStudent := { parentEmail := some "ada@example.org", feeAmount := 100 }

/-- A run of the job gets through, and two days pass. -/
def remindedOnce : List (ReminderAction 1) :=
  [.readSchool 0, .readStudent 0, .decide 0, .claim 0, .deliver 0, .record 0, .tick 172800000]

/-- Two reminders, and the next term. -/
theorem reminder_quota_along_runs_twice : ∃ s, execOk (reminderStep utcReminders)
      (fun s a => orderly utcReminders s a = true) (.start 36000000 autumnTerm unpaidStudent)
      (remindedOnce ++ remindedOnce ++ [.editSchool springTerm]) = some s ∧
    s.student.reminderCount = 2 ∧ ReminderQuota utcReminders s := by
  have hrun : (execOk (reminderStep utcReminders) (fun s a => orderly utcReminders s a = true)
      (.start 36000000 autumnTerm unpaidStudent)
      (remindedOnce ++ remindedOnce ++ [.editSchool springTerm])).map
        (fun s => s.student.reminderCount) = some 2 := by decide +kernel
  obtain ⟨s, hs, hcount⟩ := Option.map_eq_some_iff.mp hrun
  exact ⟨s, hs, hcount, reminder_quota_along_runs (.of_execOk hs)⟩

/-- After five reminders in one term the student is not eligible in the next. -/
theorem maximum_outlasts_period : ¬ ∀ (n : Nat) (cfg : ReminderConfig) (clock : Nat)
    (school : ReminderSchool) (student : ReminderStudent) (s : ReminderSystem n),
    Reach (reminderStep cfg) Free (.start clock school student) s → ReminderQuota cfg s := by
  intro h
  have hrun : (exec (reminderStep utcReminders)
      (.start 36000000 autumnTerm unpaidStudent : ReminderSystem 1)
      ((List.replicate 5 remindedOnce).flatten ++ [.editSchool springTerm])).map
        (fun s => (s.period, s.student.reminderPeriod, s.student.reachable utcReminders,
          isEligible utcReminders s.clock s.student s.school)) =
      some (some "2025-T2", some "2025-T1", true, false) := by decide +kernel
  obtain ⟨s, hs, hfields⟩ := Option.map_eq_some_iff.mp hrun
  simp only [Prod.mk.injEq] at hfields
  obtain ⟨hperiod, hlast, hreachable, hnot⟩ := hfields
  have heligible := (h 1 utcReminders _ _ _ s (reach_of_exec hs)).renewed "2025-T2" hperiod
    (by rw [hlast]; decide) hreachable
  rw [hnot] at heligible
  cases heligible

end StellarEduPay
