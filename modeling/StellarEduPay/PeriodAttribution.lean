import StellarEduPay.RolloverBalances
import StellarEduPay.Runs

/-! # Which period a payment counts in

Payments carry no period.  A recompute sums those made since the current period started into
the student's row of that period, and a rollover freezes the row as it stands.  Over a run of
payments, recomputes and rollovers the development keeps, for each row, the payments its
`totalPaid` was last written from; the code keeps no such list.

Payments made before the current period starts, or already counted when a later period with
an earlier start becomes current, are counted nowhere or twice.  A run without them counts
every payment in exactly one row.
-/
namespace StellarEduPay
open Runs Function

/-- The canonical payments of a student since a time. -/
def paidRows (db : Db) (schoolId studentId : String) (startsAt : Nat) : List Payment :=
  db.payments.docs.filter fun p =>
    canonicalPaidMatch schoolId studentId none p && decide (startsAt ≤ p.createdAt)

theorem mem_paidRows {db : Db} {schoolId studentId : String} {startsAt : Nat} {p : Payment} :
    p ∈ paidRows db schoolId studentId startsAt ↔ p ∈ db.payments.docs ∧
      canonicalPaidMatch schoolId studentId none p = true ∧ startsAt ≤ p.createdAt := by
  simp [paidRows]

theorem paidRows_nodup (db : Db) (schoolId studentId : String) (startsAt : Nat) :
    (paidRows db schoolId studentId startsAt).Nodup :=
  (List.Nodup.of_map _ db.payments.nodup).sublist List.filter_sublist

/-- The store of a school over time, the payments the last write of each row (by student and
period) was made from, and the students with a payment since their last recompute. -/
structure PeriodRun where
  clock : Nat
  store : PeriodDb
  counted : String × String → List Payment
  stale : List String

inductive PeriodAction
  | tick (ms : Nat)
  | pay (p : Payment)
  | update (studentId : String)
  | rollover (nextPeriodId performedBy : String)

/-- What a recompute of a student counts: the payments since the start of the current period,
if the student has a row in it. -/
def recount (schoolId studentId : String) (db : Db) (counted : String × String → List Payment) :
    String × String → List Payment :=
  match db.findStudent schoolId studentId, currentPeriodOf db schoolId,
    currentRow db schoolId studentId with
  | some _, some period, some _ =>
    update counted (studentId, period.id) (paidRows db schoolId studentId period.startsAt)
  | _, _, _ => counted

/-- What a rollover counts: nothing, in the new row of each student it starts afresh. -/
def reopen (students : List Student) (periodId : String)
    (counted : String × String → List Payment) : String × String → List Payment :=
  fun k => if k.2 = periodId ∧ k.1 ∈ students.map Student.studentId then [] else counted k

/-- One step of the school `schoolId`. -/
def periodStep (schoolId : String) (run : PeriodRun) : PeriodAction → Option PeriodRun
  | .tick ms => some { run with clock := run.clock + ms }
  | .pay p =>
    if p.schoolId = schoolId ∧ p.createdAt = run.clock then
      (run.store.db.payments.insert p).map fun payments => { run with
        store := { run.store with db := { run.store.db with payments := payments } }
        stale := p.studentId :: run.stale }
    else none
  | .update studentId => some { run with
      store := { run.store with db := (updateStudentBalance run.store.db schoolId studentId).2 }
      counted := recount schoolId studentId run.store.db run.counted
      stale := run.stale.filter (· ≠ studentId) }
  | .rollover nextPeriodId performedBy =>
    match run.store.rolloverToNextPeriod ⟨schoolId, nextPeriodId, performedBy⟩ with
    | .ok store => some { run with
        store := store
        counted := reopen (run.store.studentsOf schoolId) nextPeriodId run.counted }
    | .error _ => none

/-- A student has a row in a period. -/
def HasRow (db : Db) (schoolId studentId periodId : String) : Prop :=
  ∃ r ∈ db.studentPeriodFees.docs, r.key = (schoolId, studentId, periodId)

/-- The keys of the students that are not deleted. -/
def liveKeys (db : Db) : List (String × String) :=
  (db.students.docs.filter Student.live).map Student.key

/-- A period the school has opened: the current one, or one it has closed. -/
def PeriodDb.opened (store : PeriodDb) (schoolId periodId : String) : Prop :=
  periodId ∈ store.closedPeriods ∨ ∃ p, store.currentPeriod schoolId = some p ∧ p.id = periodId

/-- **Every payment counts in exactly one period.**  The rows of the opened periods total the
payments they count (and their credit adjustments, once recomputed), no payment is in a row's
list twice, and each canonical payment since the first period started is in the list of
exactly one row of its student, once the student is recomputed. -/
structure CountedOnce (schoolId : String) (firstStart : Nat) (run : PeriodRun) : Prop where
  totals : ∀ r ∈ run.store.db.studentPeriodFees.docs, r.schoolId = schoolId →
    (schoolId, r.studentId) ∈ liveKeys run.store.db → run.store.opened schoolId r.periodId →
    r.totalPaid = ((run.counted (r.studentId, r.periodId)).map Payment.amount).sum ∨
      r.totalPaid = ((run.counted (r.studentId, r.periodId)).map Payment.amount).sum +
        r.creditAdjustments
  distinct : ∀ k, (run.counted k).Nodup
  once : ∀ studentId, studentId ∉ run.stale → ∀ p ∈ run.store.db.payments.docs,
    canonicalPaidMatch schoolId studentId none p = true → firstStart ≤ p.createdAt →
    ∃ periodId, (HasRow run.store.db schoolId studentId periodId ∧
        p ∈ run.counted (studentId, periodId)) ∧
      ∀ periodId', p ∈ run.counted (studentId, periodId') → periodId' = periodId

/-- A canonical payment is made only once the current period has started, by a student with a
row in it; and a period becomes current only with every student recomputed and no canonical
payment made since its start. -/
def Attributable (schoolId : String) (run : PeriodRun) : PeriodAction → Prop
  | .pay p => p.counted = true → ∃ period, currentPeriodOf run.store.db schoolId = some period ∧
      period.startsAt ≤ run.clock ∧ HasRow run.store.db schoolId p.studentId period.id ∧
      (schoolId, p.studentId) ∈ liveKeys run.store.db
  | .rollover nextPeriodId _ => run.stale = [] ∧
      ∀ next, run.store.findPeriod schoolId nextPeriodId = some next →
        ∀ p ∈ run.store.db.payments.docs, p.schoolId = schoolId → p.counted = true →
          p.createdAt < next.startsAt
  | _ => True

theorem attributable_tick {schoolId : String} {run : PeriodRun} (ms : Nat) :
    Attributable schoolId run (.tick ms) := trivial

theorem attributable_update {schoolId : String} {run : PeriodRun} (studentId : String) :
    Attributable schoolId run (.update studentId) := trivial

/-- The first period has just been opened: one period is current, no canonical payment was made
since its start, and nothing is counted. -/
structure JustOpened (schoolId : String) (first : AcademicPeriod) (run : PeriodRun) : Prop where
  one : OnePeriod run.store schoolId
  current : currentPeriodOf run.store.db schoolId = some first
  unpaid : ∀ p ∈ run.store.db.payments.docs, p.schoolId = schoolId → p.counted = true →
    p.createdAt < first.startsAt
  counted : ∀ k, run.counted k = []
  totals : ∀ r ∈ run.store.db.studentPeriodFees.docs, r.schoolId = schoolId →
    run.store.opened schoolId r.periodId → r.totalPaid = 0 ∨ r.totalPaid = r.creditAdjustments

/-- **The attribution invariant.**  `old` is what the frozen rows count, `new` what the row of
the current period will count at the next recompute. -/
structure AttributionInv (schoolId : String) (firstStart : Nat) (run : PeriodRun)
    (period : AcademicPeriod) : Prop where
  one : OnePeriod run.store schoolId
  current : currentPeriodOf run.store.db schoolId = some period
  members : ∀ studentId periodId p, p ∈ run.counted (studentId, periodId) →
    p ∈ run.store.db.payments.docs ∧ canonicalPaidMatch schoolId studentId none p = true
  opened : ∀ studentId periodId p, p ∈ run.counted (studentId, periodId) →
    run.store.opened schoolId periodId
  sincePeriod : ∀ studentId p, p ∈ run.counted (studentId, period.id) →
    period.startsAt ≤ p.createdAt
  frozen : ∀ studentId periodId p, periodId ≠ period.id → p ∈ run.counted (studentId, periodId) →
    p.createdAt < period.startsAt
  old : ∀ studentId, ∀ p ∈ run.store.db.payments.docs,
    canonicalPaidMatch schoolId studentId none p = true → firstStart ≤ p.createdAt →
    p.createdAt < period.startsAt →
    ∃ periodId, (HasRow run.store.db schoolId studentId periodId ∧
        p ∈ run.counted (studentId, periodId)) ∧
      ∀ periodId', p ∈ run.counted (studentId, periodId') → periodId' = periodId
  recent : ∀ studentId, ∀ p ∈ run.store.db.payments.docs,
    canonicalPaidMatch schoolId studentId none p = true → period.startsAt ≤ p.createdAt →
    HasRow run.store.db schoolId studentId period.id ∧
      (schoolId, studentId) ∈ liveKeys run.store.db ∧
      (studentId ∉ run.stale → p ∈ run.counted (studentId, period.id))
  distinct : ∀ k, (run.counted k).Nodup
  totals : ∀ r ∈ run.store.db.studentPeriodFees.docs, r.schoolId = schoolId →
    (schoolId, r.studentId) ∈ liveKeys run.store.db → run.store.opened schoolId r.periodId →
    r.totalPaid = ((run.counted (r.studentId, r.periodId)).map Payment.amount).sum ∨
      r.totalPaid = ((run.counted (r.studentId, r.periodId)).map Payment.amount).sum +
        r.creditAdjustments

section Invariant
variable {schoolId : String} {firstStart : Nat} {run run' : PeriodRun} {period : AcademicPeriod}

theorem AttributionInv.countedOnce (h : AttributionInv schoolId firstStart run period) :
    CountedOnce schoolId firstStart run where
  totals := h.totals
  distinct := h.distinct
  once studentId hfresh p hp hcounted hfirst := by
    by_cases hstarted : period.startsAt ≤ p.createdAt
    · obtain ⟨hrow, -, hsynced⟩ := h.recent studentId p hp hcounted hstarted
      refine ⟨period.id, ⟨hrow, hsynced hfresh⟩, fun periodId' hin => ?_⟩
      by_contra hne
      have hbefore := h.frozen studentId periodId' p hne hin
      omega
    · exact h.old studentId p hp hcounted hfirst (by omega)

theorem JustOpened.inv (h : JustOpened schoolId period run) :
    AttributionInv schoolId period.startsAt run period where
  one := h.one
  current := h.current
  members studentId periodId p hp := by simp [h.counted] at hp
  opened studentId periodId p hp := by simp [h.counted] at hp
  sincePeriod studentId p hp := by simp [h.counted] at hp
  frozen studentId periodId p _ hp := by simp [h.counted] at hp
  old studentId p _ _ hfirst hbefore := by omega
  recent studentId p hp hcanonical hstarted := by
    obtain ⟨howner, hcounted⟩ := (canonicalPaidMatch_none schoolId studentId p).mp hcanonical
    have hbefore := h.unpaid p hp (congrArg Prod.fst howner) hcounted
    omega
  distinct k := by
    rw [h.counted k]
    exact List.nodup_nil
  totals r hr hschool _ hopen := by
    simpa [h.counted] using h.totals r hr hschool hopen

/-! ## Payments -/

theorem pay_step {p : Payment} (h : AttributionInv schoolId firstStart run period)
    (hok : Attributable schoolId run (.pay p)) (hstep : periodStep schoolId run (.pay p) = some run') :
    AttributionInv schoolId firstStart run' period := by
  simp only [periodStep] at hstep
  split at hstep
  case isFalse => cases hstep
  rename_i hnow
  obtain ⟨payments, hins, rfl⟩ := Option.map_eq_some_iff.mp hstep
  have hdocs := run.store.db.payments.insert_docs hins
  have hkeep : ∀ q ∈ run.store.db.payments.docs, q ∈ payments.docs := by
    intro q hq
    rw [hdocs]
    exact List.mem_append_left _ hq
  have hnew : ∀ q ∈ payments.docs, q ∈ run.store.db.payments.docs ∨ q = p := by
    intro q hq
    rw [hdocs] at hq
    exact (List.mem_append.mp hq).imp id List.mem_singleton.mp
  -- the new payment, if it counts, was made in the current period
  have hstarted : p.counted = true → period.startsAt ≤ p.createdAt ∧
      HasRow run.store.db schoolId p.studentId period.id ∧
      (schoolId, p.studentId) ∈ liveKeys run.store.db := by
    intro hcounted
    obtain ⟨current, hcurrent, hstart, hrow, hlive⟩ := hok hcounted
    obtain rfl : period = current := Option.some.inj (h.current.symm.trans hcurrent)
    rw [hnow.2]
    exact ⟨hstart, hrow, hlive⟩
  exact
    { one := ⟨h.one.ids, h.one.current⟩
      current := h.current
      members := fun studentId periodId q hq =>
        ⟨hkeep q (h.members studentId periodId q hq).1, (h.members studentId periodId q hq).2⟩
      opened := h.opened
      sincePeriod := h.sincePeriod
      frozen := h.frozen
      old := by
        intro studentId q hq hcanonical hfirst hbefore
        rcases hnew q hq with hold | rfl
        · exact h.old studentId q hold hcanonical hfirst hbefore
        · have := (hstarted ((canonicalPaidMatch_none schoolId studentId q).mp hcanonical).2).1
          omega
      recent := by
        intro studentId q hq hcanonical hstart
        rcases hnew q hq with hold | rfl
        · obtain ⟨hrow, hlive, hsynced⟩ := h.recent studentId q hold hcanonical hstart
          exact ⟨hrow, hlive, fun hfresh => hsynced fun hs => hfresh (List.mem_cons_of_mem _ hs)⟩
        · obtain ⟨howner, hcounted⟩ := (canonicalPaidMatch_none schoolId studentId q).mp hcanonical
          obtain rfl : q.studentId = studentId := congrArg Prod.snd howner
          obtain ⟨-, hrow, hlive⟩ := hstarted hcounted
          exact ⟨hrow, hlive, fun hfresh => absurd List.mem_cons_self hfresh⟩
      distinct := h.distinct
      totals := h.totals }

/-! ## Recomputes -/

theorem mem_liveKeys {db : Db} {studentId : String} :
    (schoolId, studentId) ∈ liveKeys db ↔ ∃ s, db.findStudent schoolId studentId = some s := by
  constructor
  · intro h
    obtain ⟨s, hs, hkey⟩ := List.mem_map.mp h
    obtain ⟨hmem, hlive⟩ := List.mem_filter.mp hs
    have hfound := Db.findStudent_of_mem hmem hlive
    rw [Student.key, Prod.mk.injEq] at hkey
    rw [hkey.1, hkey.2] at hfound
    exact ⟨s, hfound⟩
  · rintro ⟨s, hs⟩
    obtain ⟨hlive, hschool, hstudent⟩ := Db.findStudent_sat hs
    refine List.mem_map.mpr ⟨s, List.mem_filter.mpr ⟨Db.findStudent_mem hs, hlive⟩, ?_⟩
    rw [Student.key, hschool, hstudent]

/-- A change of the student documents that keeps keys and deletion keeps the live keys. -/
theorem liveKeys_map {docs : List Student} {g : Student → Student}
    (hg : ∀ s ∈ docs, (g s).live = s.live ∧ (g s).key = s.key) :
    ((docs.map g).filter Student.live).map Student.key =
      (docs.filter Student.live).map Student.key := by
  induction docs with
  | nil => rfl
  | cons s docs ih =>
    obtain ⟨hlive, hkey⟩ := hg s List.mem_cons_self
    have ih := ih fun x hx => hg x (List.mem_cons_of_mem _ hx)
    rw [List.map_cons, List.filter_cons, List.filter_cons, hlive]
    split
    · rw [List.map_cons, List.map_cons, hkey, ih]
    · exact ih

@[simp] theorem liveKeys_update (db : Db) (schoolId studentId : String) :
    liveKeys (updateStudentBalance db schoolId studentId).2 = liveKeys db := by
  cases hs : db.findStudent schoolId studentId with
  | none => rw [updateStudentBalance_none hs]
  | some s =>
    rw [liveKeys, updateStudentBalance_students hs]
    refine liveKeys_map fun x hx => ?_
    by_cases hk : x.key = (withBalance db s).key
    · obtain rfl := db.students.eq_of_key hx (Db.findStudent_mem hs) hk
      rw [if_pos hk]
      exact ⟨rfl, rfl⟩
    · rw [if_neg hk]
      exact ⟨rfl, rfl⟩

@[simp] theorem syncCurrentPeriodFee_academicPeriods (db : Db) (schoolId studentId : String) :
    (syncCurrentPeriodFee db schoolId studentId).academicPeriods = db.academicPeriods := by
  unfold syncCurrentPeriodFee
  split
  · rfl
  · split
    · rfl
    · rfl

@[simp] theorem updateStudentBalance_academicPeriods (db : Db) (schoolId studentId : String) :
    (updateStudentBalance db schoolId studentId).2.academicPeriods = db.academicPeriods := by
  unfold updateStudentBalance
  split <;> simp

/-- A recompute writes the student's row of the current period, or there is none to write. -/
theorem update_rows (db : Db) (counted : String × String → List Payment)
    (schoolId studentId : String) :
    (∃ period r, currentPeriodOf db schoolId = some period ∧
        currentRow db schoolId studentId = some r ∧
        (updateStudentBalance db schoolId studentId).2.studentPeriodFees =
          db.studentPeriodFees.save (syncedRow db period r) ∧
        recount schoolId studentId db counted = update counted (studentId, period.id)
          (paidRows db schoolId studentId period.startsAt)) ∨
      (((schoolId, studentId) ∉ liveKeys db ∨ currentRow db schoolId studentId = none) ∧
        (updateStudentBalance db schoolId studentId).2.studentPeriodFees = db.studentPeriodFees ∧
        recount schoolId studentId db counted = counted) := by
  cases hs : db.findStudent schoolId studentId with
  | none =>
    refine Or.inr ⟨Or.inl fun hlive => ?_, by rw [updateStudentBalance_none hs], ?_⟩
    · obtain ⟨s, hs'⟩ := mem_liveKeys.mp hlive
      rw [hs] at hs'
      cases hs'
    · simp [recount, hs]
  | some s =>
    have hupdate : (updateStudentBalance db schoolId studentId).2 = syncCurrentPeriodFee
        { db with students := db.students.save (withBalance db s) } schoolId studentId := by
      rw [updateStudentBalance, hs]
    cases hr : currentRow db schoolId studentId with
    | none =>
      refine Or.inr ⟨Or.inr rfl, ?_, by simp [recount, hs, hr]⟩
      rw [hupdate]
      unfold syncCurrentPeriodFee
      split
      · rfl
      · rename_i current hcurrent
        have hnone : (currentPeriodOf db schoolId) = some current := hcurrent
        rw [currentRow, hnone, Option.bind_some] at hr
        split
        · rfl
        · rename_i r hrow
          exact absurd (hr.symm.trans hrow) (by simp)
    | some r =>
      cases hp : currentPeriodOf db schoolId with
      | none =>
        rw [currentRow, hp] at hr
        cases hr
      | some period =>
        refine Or.inl ⟨period, r, rfl, rfl, ?_, by simp [recount, hs, hp, hr]⟩
        let saved : Db := { db with students := db.students.save (withBalance db s) }
        have hsync := syncCurrentPeriodFee_row saved hp hr
        rw [hupdate]
        exact congrArg Db.studentPeriodFees hsync

theorem hasRow_update {db : Db} {studentId studentId' periodId : String}
    (h : HasRow db schoolId studentId' periodId) :
    HasRow (updateStudentBalance db schoolId studentId).2 schoolId studentId' periodId := by
  obtain ⟨x, hx, hxkey⟩ := h
  rcases update_rows db (fun _ => []) schoolId studentId with
    ⟨current, r, hperiod, hrow, hrows, -⟩ | ⟨-, hrows, -⟩
  · obtain ⟨hr, hrkey⟩ := currentRow_sat hperiod hrow
    rw [HasRow, hrows]
    by_cases hk : x.key = r.key
    · exact ⟨syncedRow db current r,
        db.studentPeriodFees.mem_save.mpr (Or.inl ⟨rfl, r, hr, rfl⟩), hk.symm.trans hxkey⟩
    · exact ⟨x, db.studentPeriodFees.mem_save.mpr (Or.inr ⟨hx, hk⟩), hxkey⟩
  · rw [HasRow, hrows]
    exact ⟨x, hx, hxkey⟩

/-- A student with a row in the current period is found with it. -/
theorem currentRow_of_hasRow {db : Db} {studentId : String}
    (hperiod : currentPeriodOf db schoolId = some period)
    (h : HasRow db schoolId studentId period.id) : ∃ r, currentRow db schoolId studentId = some r := by
  obtain ⟨r, hr, hkey⟩ := h
  exact ⟨r, currentRow_of_mem hperiod hr hkey⟩

/-- What a recompute does to a run, but for the rows. -/
structure Recount (schoolId studentId : String) (run run' : PeriodRun) : Prop where
  db : run'.store.db = (updateStudentBalance run.store.db schoolId studentId).2
  closed : run'.store.closedPeriods = run.store.closedPeriods
  counted : run'.counted = recount schoolId studentId run.store.db run.counted
  stale : run'.stale = run.stale.filter (· ≠ studentId)

theorem update_recount {studentId : String}
    (hstep : periodStep schoolId run (.update studentId) = some run') :
    Recount schoolId studentId run run' := by
  cases hstep
  exact ⟨rfl, rfl, rfl, rfl⟩

namespace Recount
variable {studentId : String} (h : Recount schoolId studentId run run')
include h

theorem payments : run'.store.db.payments = run.store.db.payments := by
  rw [h.db, updateStudentBalance_payments]

theorem academicPeriods : run'.store.db.academicPeriods = run.store.db.academicPeriods := by
  rw [h.db, updateStudentBalance_academicPeriods]

theorem currentPeriodOf_eq : currentPeriodOf run'.store.db schoolId =
    currentPeriodOf run.store.db schoolId := by
  rw [currentPeriodOf, currentPeriodOf, h.academicPeriods]

theorem opened (periodId : String) :
    run'.store.opened schoolId periodId ↔ run.store.opened schoolId periodId := by
  rw [PeriodDb.opened, PeriodDb.opened, PeriodDb.currentPeriod, PeriodDb.currentPeriod,
    h.academicPeriods, h.closed]

theorem onePeriod (hone : OnePeriod run.store schoolId) : OnePeriod run'.store schoolId :=
  ⟨h.academicPeriods ▸ hone.ids, h.academicPeriods ▸ hone.current⟩

theorem liveKeys_eq : liveKeys run'.store.db = liveKeys run.store.db := by
  rw [h.db, liveKeys_update]

theorem hasRow {studentId' periodId : String}
    (hrow : HasRow run.store.db schoolId studentId' periodId) :
    HasRow run'.store.db schoolId studentId' periodId := by
  rw [h.db]
  exact hasRow_update hrow

theorem fresh {studentId' : String} (hfresh : studentId' ∉ run'.stale)
    (hne : studentId' ≠ studentId) : studentId' ∉ run.stale := by
  rw [h.stale] at hfresh
  exact fun hstale => hfresh (List.mem_filter.mpr ⟨hstale, decide_eq_true hne⟩)

end Recount

/-- A recompute keeps the invariant if the list of the current period, whatever it becomes, has
the student's payments since the start of the period, and the rows total what they count. -/
theorem Recount.inv {studentId : String} {l : List Payment}
    (h : AttributionInv schoolId firstStart run period) (hu : Recount schoolId studentId run run')
    (hcounted : run'.counted = update run.counted (studentId, period.id) l)
    (hl : ∀ p ∈ l, p ∈ paidRows run.store.db schoolId studentId period.startsAt)
    (hnodup : l.Nodup)
    (hall : HasRow run.store.db schoolId studentId period.id →
      (schoolId, studentId) ∈ liveKeys run.store.db →
      ∀ p ∈ paidRows run.store.db schoolId studentId period.startsAt, p ∈ l)
    (htotals : ∀ r ∈ run'.store.db.studentPeriodFees.docs, r.schoolId = schoolId →
      (schoolId, r.studentId) ∈ liveKeys run.store.db → run.store.opened schoolId r.periodId →
      r.totalPaid = ((run'.counted (r.studentId, r.periodId)).map Payment.amount).sum ∨
        r.totalPaid = ((run'.counted (r.studentId, r.periodId)).map Payment.amount).sum +
          r.creditAdjustments) :
    AttributionInv schoolId firstStart run' period := by
  have hself : run'.counted (studentId, period.id) = l := by
    rw [hcounted, update_self]
  have hof : ∀ {s periodId}, (s, periodId) ≠ (studentId, period.id) →
      run'.counted (s, periodId) = run.counted (s, periodId) := by
    intro s periodId hne
    rw [hcounted, update_of_ne hne]
  have hat : ∀ s periodId p, p ∈ run'.counted (s, periodId) →
      (s = studentId ∧ periodId = period.id ∧
          p ∈ paidRows run.store.db schoolId studentId period.startsAt) ∨
        p ∈ run.counted (s, periodId) := by
    intro s periodId p hp
    by_cases hk : (s, periodId) = (studentId, period.id)
    · rw [hk, hself] at hp
      exact Or.inl ⟨congrArg Prod.fst hk, congrArg Prod.snd hk, hl p hp⟩
    · exact Or.inr (hof hk ▸ hp)
  refine ⟨hu.onePeriod h.one, hu.currentPeriodOf_eq.trans h.current, ?_, ?_, ?_, ?_, ?_, ?_, ?_, ?_⟩
  · intro s periodId p hp
    rw [hu.payments]
    rcases hat s periodId p hp with ⟨rfl, -, hpaid⟩ | hin
    · have hmem := mem_paidRows.mp hpaid
      exact ⟨hmem.1, hmem.2.1⟩
    · exact h.members s periodId p hin
  · intro s periodId p hp
    refine (hu.opened periodId).mpr ?_
    rcases hat s periodId p hp with ⟨-, rfl, -⟩ | hin
    · exact Or.inr ⟨period, h.current, rfl⟩
    · exact h.opened s periodId p hin
  · intro s p hp
    rcases hat s period.id p hp with ⟨-, -, hpaid⟩ | hin
    · exact (mem_paidRows.mp hpaid).2.2
    · exact h.sincePeriod s p hin
  · intro s periodId p hne hp
    rw [hof fun hk => hne (congrArg Prod.snd hk)] at hp
    exact h.frozen s periodId p hne hp
  · -- a payment from before the current period is in a frozen list, which stays
    intro s p hp hcanonical hfirst hbefore
    rw [hu.payments] at hp
    obtain ⟨periodId, ⟨hrow, hin⟩, honly⟩ := h.old s p hp hcanonical hfirst hbefore
    have hne : periodId ≠ period.id := by
      rintro rfl
      have hstarted := h.sincePeriod s p hin
      omega
    have hin' : p ∈ run'.counted (s, periodId) :=
      (hof fun hk => hne (congrArg Prod.snd hk)).symm ▸ hin
    refine ⟨periodId, ⟨hu.hasRow hrow, hin'⟩, fun periodId' hin'' => ?_⟩
    rcases hat s periodId' p hin'' with ⟨-, -, hpaid⟩ | hin''
    · have hstarted := (mem_paidRows.mp hpaid).2.2
      omega
    · exact honly periodId' hin''
  · intro s p hp hcanonical hstarted
    rw [hu.payments] at hp
    obtain ⟨hrow, hlive, hsynced⟩ := h.recent s p hp hcanonical hstarted
    refine ⟨hu.hasRow hrow, hu.liveKeys_eq.symm ▸ hlive, fun hfresh => ?_⟩
    by_cases hsame : s = studentId
    · subst hsame
      rw [hself]
      exact hall hrow hlive p (mem_paidRows.mpr ⟨hp, hcanonical, hstarted⟩)
    · rw [hof fun hk => hsame (congrArg Prod.fst hk)]
      exact hsynced (hu.fresh hfresh hsame)
  · intro k
    by_cases hk : k = (studentId, period.id)
    · rw [hk, hself]
      exact hnodup
    · rw [hcounted, update_of_ne hk]
      exact h.distinct k
  · intro r hr hschool hlive hopen
    exact htotals r hr hschool (hu.liveKeys_eq ▸ hlive) ((hu.opened r.periodId).mp hopen)

/-- The row of the current period is written from the payments since its start. -/
theorem update_row_step {studentId : String} {r : StudentPeriodFee}
    (h : AttributionInv schoolId firstStart run period) (hu : Recount schoolId studentId run run')
    (hrow : currentRow run.store.db schoolId studentId = some r)
    (hrows : run'.store.db.studentPeriodFees =
      run.store.db.studentPeriodFees.save (syncedRow run.store.db period r))
    (hcounted : run'.counted = update run.counted (studentId, period.id)
      (paidRows run.store.db schoolId studentId period.startsAt)) :
    AttributionInv schoolId firstStart run' period := by
  obtain ⟨hr, hrkey⟩ := currentRow_sat h.current hrow
  refine hu.inv h hcounted (fun _ hp => hp) (paidRows_nodup _ _ _ _) (fun _ _ _ hp => hp) ?_
  intro x hx hschool hlive hopen
  rw [hrows] at hx
  rcases run.store.db.studentPeriodFees.mem_save.mp hx with ⟨rfl, -⟩ | ⟨hx, hne⟩
  · have hids := hrkey
    rw [StudentPeriodFee.key, Prod.mk.injEq, Prod.mk.injEq] at hids
    have hk : ((syncedRow run.store.db period r).studentId,
        (syncedRow run.store.db period r).periodId) = (studentId, period.id) :=
      Prod.ext hids.2.1 hids.2.2
    rw [hk, hcounted, update_self, ← hids.1, ← hids.2.1]
    exact Or.inr rfl
  · rw [hcounted, update_of_ne]
    · exact h.totals x hx hschool hlive hopen
    · intro hk
      exact hne ((Prod.ext hschool hk : x.key = (schoolId, studentId, period.id)).trans
        hrkey.symm)

/-- Where nothing is written, the student has no payment since the start of the current period. -/
theorem update_none_step {studentId : String}
    (h : AttributionInv schoolId firstStart run period) (hu : Recount schoolId studentId run run')
    (hnone : (schoolId, studentId) ∉ liveKeys run.store.db ∨
      currentRow run.store.db schoolId studentId = none)
    (hrows : run'.store.db.studentPeriodFees = run.store.db.studentPeriodFees)
    (hcounted : run'.counted = run.counted) : AttributionInv schoolId firstStart run' period := by
  refine hu.inv h (hcounted.trans (update_eq_self (studentId, period.id) run.counted).symm)
    (fun p hp => ?_) (h.distinct _) (fun hrow hlive => ?_) fun r hr hschool hlive hopen => ?_
  · obtain ⟨hmem, hcanonical⟩ := h.members studentId period.id p hp
    exact mem_paidRows.mpr ⟨hmem, hcanonical, h.sincePeriod studentId p hp⟩
  · rcases hnone with hdead | hnorow
    · exact absurd hlive hdead
    · obtain ⟨r, hr⟩ := currentRow_of_hasRow h.current hrow
      rw [hnorow] at hr
      cases hr
  · rw [hrows] at hr
    rw [hcounted]
    exact h.totals r hr hschool hlive hopen

theorem update_step {studentId : String} (h : AttributionInv schoolId firstStart run period)
    (hstep : periodStep schoolId run (.update studentId) = some run') :
    AttributionInv schoolId firstStart run' period := by
  have hu := update_recount hstep
  rcases update_rows run.store.db run.counted schoolId studentId with
    ⟨current, r, hperiod, hrow, hrows, hcounted⟩ | ⟨hnone, hrows, hcounted⟩
  · obtain rfl : period = current := Option.some.inj (h.current.symm.trans hperiod)
    rw [← hu.db] at hrows
    exact update_row_step h hu hrow hrows (hu.counted.trans hcounted)
  · rw [← hu.db] at hrows
    exact update_none_step h hu hnone hrows (hu.counted.trans hcounted)

/-! ## Rollovers -/

section Rollover
variable {store : PeriodDb} {closing next : AcademicPeriod} {req : RolloverRequest}

theorem liveKeys_rollover (store : PeriodDb) (closing next : AcademicPeriod) (schoolId : String) :
    liveKeys (store.rolloverTransaction closing next schoolId).db = liveKeys store.db := by
  have hfold : ∀ (students : List Student) (db : Db),
      liveKeys (students.foldl (store.rolloverStudent closing next) db) = liveKeys db := by
    intro students
    induction students with
    | nil => exact fun _ => rfl
    | cons student students ih =>
      intro db
      rw [List.foldl_cons, ih]
      refine liveKeys_map fun s _ => ?_
      by_cases hk : s.key = student.key
      · rw [if_pos hk]
        exact ⟨rfl, rfl⟩
      · rw [if_neg hk]
        exact ⟨rfl, rfl⟩
  exact hfold _ _

/-- The rows of the other periods are frozen. -/
theorem rollover_rows {schoolId : String} {r : StudentPeriodFee} (hne : r.periodId ≠ next.id) :
    r ∈ (store.rolloverTransaction closing next schoolId).db.studentPeriodFees.docs ↔
      r ∈ store.db.studentPeriodFees.docs := by
  have hother : ∀ s ∈ store.studentsOf schoolId, r.key ≠ (s.schoolId, s.studentId, next.id) := by
    intro s _ hk
    refine hne ?_
    rw [StudentPeriodFee.key, Prod.mk.injEq, Prod.mk.injEq] at hk
    exact hk.2.2
  exact rollover_fold_rows hother

/-- The row of the new period starts with nothing paid. -/
theorem rollover_row_new {schoolId : String} {r : StudentPeriodFee}
    (hr : r ∈ (store.rolloverTransaction closing next schoolId).db.studentPeriodFees.docs)
    (hschool : r.schoolId = schoolId) (hlive : (schoolId, r.studentId) ∈ liveKeys store.db)
    (hperiod : r.periodId = next.id) :
    r.studentId ∈ (store.studentsOf schoolId).map Student.studentId ∧ r.totalPaid = 0 := by
  obtain ⟨s, hs, hkey⟩ := List.mem_map.mp hlive
  obtain ⟨hstored, halive⟩ := List.mem_filter.mp hs
  rw [Student.key, Prod.mk.injEq] at hkey
  have hmem : s ∈ store.studentsOf schoolId :=
    List.mem_filter.mpr ⟨hstored, by simp [hkey.1, halive]⟩
  refine ⟨List.mem_map.mpr ⟨s, hmem, hkey.2⟩, ?_⟩
  have hrkey : r.key = (s.schoolId, s.studentId, next.id) := by
    rw [StudentPeriodFee.key, hschool, hperiod, hkey.1, hkey.2]
  rcases (rollover_fold_self store closing next (nodup_studentsOf store schoolId) hmem
      (show s ∈ (store.rolloverPeriods closing next).db.students.docs from hstored)).2 with
    ⟨x, -, hxkey, hx⟩ | ⟨-, hx⟩
  · rw [Collection.eq_of_key _ hr hx (hrkey.trans hxkey.symm)]
    rfl
  · rw [Collection.eq_of_key _ hr hx hrkey]
    rfl

theorem rollover_opened_iff (hone : OnePeriod store req.schoolId)
    (hpre : store.preflight req = .ok (closing, next)) (periodId : String) :
    (store.rolloverTransaction closing next req.schoolId).opened req.schoolId periodId ↔
      store.opened req.schoolId periodId ∨ periodId = next.id := by
  have hcurrent := (preflight_ok hpre).1
  have hmoved : (store.rolloverTransaction closing next req.schoolId).currentPeriod req.schoolId =
      some { next with isCurrent := true } := currentPeriodOf_rollover hone hpre
  have hclosed : (store.rolloverTransaction closing next req.schoolId).closedPeriods =
      closing.id :: store.closedPeriods := rfl
  rw [PeriodDb.opened, PeriodDb.opened, hmoved, hcurrent, hclosed, List.mem_cons]
  constructor
  · rintro ((rfl | hin) | ⟨p, hp, rfl⟩)
    · exact Or.inl (Or.inr ⟨closing, rfl, rfl⟩)
    · exact Or.inl (Or.inl hin)
    · cases hp
      exact Or.inr rfl
  · rintro ((hin | ⟨p, hp, rfl⟩) | rfl)
    · exact Or.inl (Or.inr hin)
    · cases hp
      exact Or.inl (Or.inl rfl)
    · exact Or.inr ⟨_, rfl, rfl⟩

end Rollover

section Reopen
variable {students : List Student} {counted : String × String → List Payment}
  {studentId periodId nextId : String} {next : AcademicPeriod} {performedBy : String}

theorem mem_of_mem_reopen {k : String × String} {p : Payment}
    (h : p ∈ reopen students nextId counted k) : p ∈ counted k := by
  rw [reopen] at h
  split at h
  · cases h
  · exact h

theorem reopen_of_ne (hne : periodId ≠ nextId) :
    reopen students nextId counted (studentId, periodId) = counted (studentId, periodId) :=
  if_neg fun hk => hne hk.1

/-- Nothing was counted in the next period before. -/
theorem AttributionInv.not_counted (h : AttributionInv schoolId firstStart run period)
    (hpre : run.store.preflight ⟨schoolId, next.id, performedBy⟩ = .ok (period, next))
    (studentId : String) (p : Payment) : p ∉ run.counted (studentId, next.id) := by
  obtain ⟨-, -, hnotClosed, hne⟩ := preflight_ok hpre
  intro hp
  rcases h.opened studentId next.id p hp with hclosed | ⟨q, hq, hqid⟩
  · exact hnotClosed hclosed
  · obtain rfl : period = q := Option.some.inj (h.current.symm.trans hq)
    exact hne hqid.symm

/-- With every student recomputed, each payment so far is in the list of one row, and stays
there. -/
theorem AttributionInv.rollover_old (h : AttributionInv schoolId firstStart run period)
    (hpre : run.store.preflight ⟨schoolId, next.id, performedBy⟩ = .ok (period, next))
    (hsynced : run.stale = []) {p : Payment} (hp : p ∈ run.store.db.payments.docs)
    (hcanonical : canonicalPaidMatch schoolId studentId none p = true)
    (hfirst : firstStart ≤ p.createdAt) :
    ∃ periodId, (HasRow (run.store.rolloverTransaction period next schoolId).db schoolId studentId
        periodId ∧ p ∈ reopen students next.id run.counted (studentId, periodId)) ∧
      ∀ periodId', p ∈ reopen students next.id run.counted (studentId, periodId') →
        periodId' = periodId := by
  obtain ⟨periodId, ⟨⟨r, hr, hkey⟩, hin⟩, honly⟩ :=
    h.countedOnce.once studentId (by simp [hsynced]) p hp hcanonical hfirst
  have hperiod : periodId ≠ next.id := by
    rintro rfl
    exact h.not_counted hpre studentId p hin
  have hrperiod : r.periodId ≠ next.id := by
    rw [StudentPeriodFee.key, Prod.mk.injEq, Prod.mk.injEq] at hkey
    exact hkey.2.2 ▸ hperiod
  refine ⟨periodId, ⟨⟨r, (rollover_rows hrperiod).mpr hr, hkey⟩, ?_⟩, ?_⟩
  · rw [reopen_of_ne hperiod]
    exact hin
  · exact fun periodId' hin' => honly periodId' (mem_of_mem_reopen hin')

/-- The new rows count nothing and have nothing paid; the others are frozen. -/
theorem AttributionInv.rollover_totals (h : AttributionInv schoolId firstStart run period)
    (hpre : run.store.preflight ⟨schoolId, next.id, performedBy⟩ = .ok (period, next))
    {r : StudentPeriodFee}
    (hr : r ∈ (run.store.rolloverTransaction period next schoolId).db.studentPeriodFees.docs)
    (hschool : r.schoolId = schoolId) (hlive : (schoolId, r.studentId) ∈ liveKeys run.store.db)
    (hopen : (run.store.rolloverTransaction period next schoolId).opened schoolId r.periodId) :
    let counts := reopen (run.store.studentsOf schoolId) next.id run.counted
      (r.studentId, r.periodId)
    r.totalPaid = (counts.map Payment.amount).sum ∨
      r.totalPaid = (counts.map Payment.amount).sum + r.creditAdjustments := by
  dsimp only
  by_cases hperiod : r.periodId = next.id
  · obtain ⟨hmember, hzero⟩ := rollover_row_new hr hschool hlive hperiod
    have hnone : reopen (run.store.studentsOf schoolId) next.id run.counted
        (r.studentId, r.periodId) = [] := if_pos ⟨hperiod, hmember⟩
    rw [hnone]
    exact Or.inl hzero
  · rw [reopen_of_ne hperiod]
    refine h.totals r ((rollover_rows hperiod).mp hr) hschool hlive ?_
    exact ((rollover_opened_iff h.one hpre r.periodId).mp hopen).resolve_right hperiod

end Reopen

theorem rollover_step {nextPeriodId performedBy : String}
    (h : AttributionInv schoolId firstStart run period)
    (hok : Attributable schoolId run (.rollover nextPeriodId performedBy))
    (hstep : periodStep schoolId run (.rollover nextPeriodId performedBy) = some run') :
    ∃ period', AttributionInv schoolId firstStart run' period' := by
  simp only [periodStep] at hstep
  split at hstep
  case h_2 => cases hstep
  rename_i store hroll
  obtain rfl := Option.some.inj hstep
  obtain ⟨closing, next, hpre, rfl⟩ := rolloverToNextPeriod_ok hroll
  obtain ⟨hcurrent, hnext, -, -⟩ := preflight_ok hpre
  obtain rfl : period = closing := Option.some.inj (h.current.symm.trans hcurrent)
  obtain rfl : next.id = nextPeriodId := (findPeriod_sat hnext).2.1
  obtain ⟨hsynced, hunpaid⟩ := hok
  have hpayments := rollover_payments run.store period next schoolId
  have hbefore : ∀ studentId p, p ∈ run.store.db.payments.docs →
      canonicalPaidMatch schoolId studentId none p = true → p.createdAt < next.startsAt := by
    intro studentId p hp hcanonical
    obtain ⟨howner, hcounted⟩ := (canonicalPaidMatch_none schoolId studentId p).mp hcanonical
    exact hunpaid next hnext p hp (congrArg Prod.fst howner) hcounted
  refine ⟨{ next with isCurrent := true }, ?_, currentPeriodOf_rollover h.one hpre, ?_, ?_, ?_, ?_,
    ?_, ?_, ?_, ?_⟩
  · have hmoved := onePeriod_moved h.one hpre
    have hperiods := rollover_academicPeriods run.store period next schoolId
    exact ⟨hperiods ▸ hmoved.ids, hperiods ▸ hmoved.current⟩
  · intro studentId periodId p hp
    obtain ⟨hmem, hcanonical⟩ := h.members studentId periodId p (mem_of_mem_reopen hp)
    exact ⟨hpayments.symm ▸ hmem, hcanonical⟩
  · intro studentId periodId p hp
    have hopened := h.opened studentId periodId p (mem_of_mem_reopen hp)
    exact (rollover_opened_iff h.one hpre periodId).mpr (Or.inl hopened)
  · intro studentId p hp
    exact absurd (mem_of_mem_reopen hp) (h.not_counted hpre studentId p)
  · intro studentId periodId p _ hp
    obtain ⟨hmem, hcanonical⟩ := h.members studentId periodId p (mem_of_mem_reopen hp)
    exact hbefore studentId p hmem hcanonical
  · intro studentId p hp hcanonical hfirst _
    exact h.rollover_old hpre hsynced (hpayments ▸ hp) hcanonical hfirst
  · intro studentId p hp hcanonical hstarted
    have hlate := hbefore studentId p (hpayments ▸ hp) hcanonical
    exact absurd hstarted (by simpa using hlate)
  · intro k
    dsimp only
    rw [reopen]
    split
    · exact List.nodup_nil
    · exact h.distinct k
  · intro r hr hschool hlive hopen
    refine h.rollover_totals hpre hr hschool ?_ hopen
    rwa [← liveKeys_rollover run.store period next schoolId]

/-! ## Whole runs -/

theorem AttributionInv.step {a : PeriodAction}
    (h : ∃ period, AttributionInv schoolId firstStart run period) (hok : Attributable schoolId run a)
    (hstep : periodStep schoolId run a = some run') :
    ∃ period, AttributionInv schoolId firstStart run' period := by
  obtain ⟨period, h⟩ := h
  cases a with
  | tick ms =>
    cases hstep
    exact ⟨period, ⟨h.one, h.current, h.members, h.opened, h.sincePeriod, h.frozen, h.old, h.recent,
      h.distinct, h.totals⟩⟩
  | pay p => exact ⟨period, pay_step h hok hstep⟩
  | update studentId => exact ⟨period, update_step h hstep⟩
  | rollover nextPeriodId performedBy => exact rollover_step h hok hstep

end Invariant

/-- **Every payment counts in exactly one period**, over every run from the opening of the first
one in which payments are made in a period that has started, and periods become current with
every student recomputed and before their own start. -/
theorem payments_counted_once {schoolId : String} {first : AcademicPeriod} {run run' : PeriodRun}
    (h0 : JustOpened schoolId first run)
    (hreach : Reach (periodStep schoolId) (Attributable schoolId) run run') :
    CountedOnce schoolId first.startsAt run' := by
  have hinv : ∃ period, AttributionInv schoolId first.startsAt run' period :=
    hreach.invariant ⟨first, h0.inv⟩ AttributionInv.step
  obtain ⟨period, hinv⟩ := hinv
  exact hinv.countedOnce

/-! ## A term with one student -/

/-- The row of the student in the first term. -/
def firstTermRow : StudentPeriodFee where
  schoolId := "SCH"
  studentId := "STU001"
  periodId := "P0"
  feeAmount := 1000000000
  carriedArrears := 0
  creditAdjustments := 0
  totalPaid := 0
  remainingBalance := some 1000000000
  feePaid := false

/-- The first term has been opened for the student, who has paid nothing. -/
def firstTermRun : PeriodRun where
  clock := 0
  store := schoolTerms { enrolledDb with studentPeriodFees := ⟨[firstTermRow], by decide⟩ }
  counted := fun _ => []
  stale := []

theorem firstTermRun_justOpened : JustOpened "SCH" firstTerm firstTermRun where
  one := schoolTerms_onePeriod _
  current := rfl
  unpaid := by
    intro p hp
    cases hp
  counted _ := rfl
  totals := by
    intro r hr _ _
    obtain rfl : r = firstTermRow := List.mem_singleton.mp hr
    exact Or.inl rfl

/-- The student pays the fee at a time. -/
def payAt (createdAt : Nat) : PeriodAction := .pay { paidRow with createdAt := createdAt }

/-- The student pays in the first term, and the second one is opened before it starts. -/
theorem payments_counted_once_on_time :
    ∃ run', exec (periodStep "SCH") firstTermRun
        [.tick 10, payAt 10, .update "STU001", .rollover "P1" "admin", .update "STU001"] = some run' ∧
      CountedOnce "SCH" 0 run' := by
  refine ⟨_, rfl, payments_counted_once firstTermRun_justOpened ?_⟩
  have hpay : Attributable "SCH" { firstTermRun with clock := 10 } (payAt 10) := fun _ =>
    ⟨firstTerm, rfl, by decide, ⟨firstTermRow, by decide, rfl⟩, by decide⟩
  refine .head (attributable_tick 10) rfl (.head hpay rfl (.head (attributable_update "STU001") rfl
    (.head (a := .rollover "P1" "admin") ⟨rfl, ?_⟩ rfl
      (.head (attributable_update "STU001") rfl .refl))))
  intro next hnext p hp _ _
  obtain rfl : secondTerm = next := Option.some.inj hnext
  obtain rfl : p = { paidRow with createdAt := 10 } := List.mem_singleton.mp hp
  decide

/-- The second term is opened after it has started, and a payment made in between is counted in
the rows of both. -/
theorem late_rollover_counts_twice :
    ¬ ∀ (schoolId : String) (first : AcademicPeriod) (run run' : PeriodRun),
      JustOpened schoolId first run → Reach (periodStep schoolId) Free run run' →
        CountedOnce schoolId first.startsAt run' := by
  intro h
  have hrun : ∃ run', exec (periodStep "SCH") firstTermRun
      [.tick 150, payAt 150, .update "STU001", .rollover "P1" "admin", .update "STU001"] =
        some run' ∧
      run'.store.db.studentPeriodFees.docs.map StudentPeriodFee.totalPaid =
        [1000000000, 1000000000] ∧
      run'.store.db.payments.docs = [{ paidRow with createdAt := 150 }] ∧ run'.stale = [] ∧
      { paidRow with createdAt := 150 } ∈ run'.counted ("STU001", "P0") ∧
      { paidRow with createdAt := 150 } ∈ run'.counted ("STU001", "P1") :=
    ⟨_, rfl, by decide, by decide, by decide, by decide, by decide⟩
  obtain ⟨run', hexec, -, hpayments, hstale, hfirst, hsecond⟩ := hrun
  obtain ⟨periodId, -, honly⟩ := (h "SCH" firstTerm firstTermRun run' firstTermRun_justOpened
    (reach_of_exec hexec)).once "STU001" (by simp [hstale]) { paidRow with createdAt := 150 }
      (by simp [hpayments]) (by decide) (by decide)
  exact absurd ((honly "P0" hfirst).trans (honly "P1" hsecond).symm) (by decide)

end StellarEduPay
