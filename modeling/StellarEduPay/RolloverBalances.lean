import Mathlib.Algebra.Order.BigOperators.Group.List
import StellarEduPay.PeriodRollover

/-! # Balances after a rollover

A rollover writes what a student owes for the new period; `updateStudentBalance` rewrites it
after every payment, from all payments ever made and without the arrears.  The two agree for
exactly the students who come into the new period with nothing counted and nothing owed.
-/
namespace StellarEduPay

/-- The counted payments of a student since a time. -/
def paidSince (db : Db) (schoolId studentId : String) (startsAt : Nat) : Int :=
  ((db.payments.docs.filter fun p =>
    canonicalPaidMatch schoolId studentId none p && decide (startsAt ≤ p.createdAt)).map
    Payment.amount).sum

theorem paidSince_insert {db : Db} {p : Payment}
    {payments : Collection Payment (String × String × Nat) Payment.key}
    (h : db.payments.insert p = some payments) {schoolId studentId : String} {startsAt : Nat}
    (hcounted : canonicalPaidMatch schoolId studentId none p = true) (hstarts : startsAt ≤ p.createdAt) :
    paidSince { db with payments := payments } schoolId studentId startsAt =
      paidSince db schoolId studentId startsAt + p.amount := by
  simp [paidSince, db.payments.insert_docs h, List.filter_append, hcounted, hstarts]

/-- The current period of a school. -/
def currentPeriodOf (db : Db) (schoolId : String) : Option AcademicPeriod :=
  db.academicPeriods.find? fun p => p.schoolId == schoolId && p.isCurrent

/-- A student's row in the current period. -/
def currentRow (db : Db) (schoolId studentId : String) : Option StudentPeriodFee :=
  (currentPeriodOf db schoolId).bind fun period => db.studentPeriodFees.findOne fun f =>
    f.schoolId == schoolId && f.studentId == studentId && f.periodId == period.id

/-- What neither payments nor recomputations change: the fee and the credit of the student, the
current period, and fee, arrears and credit of the row. -/
structure OpenedAt (db : Db) (schoolId studentId : String) (period : AcademicPeriod)
    (fee arrears credit rowCredit : Int) : Prop where
  student : ∃ s, db.findStudent schoolId studentId = some s ∧ s.feeAmount = fee ∧
    s.creditAdjustments = credit
  period : currentPeriodOf db schoolId = some period
  row : ∃ r, currentRow db schoolId studentId = some r ∧ r.feeAmount = fee ∧
    r.carriedArrears = arrears ∧ r.creditAdjustments = rowCredit

/-- The figures a recomputation leaves behind. -/
structure Recomputed (db : Db) (schoolId studentId : String) (fee arrears total since : Int) :
    Prop where
  student : ∃ s, db.findStudent schoolId studentId = some s ∧ s.totalPaid = total ∧
    s.remainingBalance = some (max 0 (fee - total)) ∧ s.feePaid = decide (fee ≤ total)
  row : ∃ r, currentRow db schoolId studentId = some r ∧
    r.remainingBalance = some (max 0 (fee + arrears - since))

section Recompute
variable {db : Db} {schoolId studentId : String} {period : AcademicPeriod}
  {fee arrears credit rowCredit : Int}

/-- The row `syncCurrentPeriodFee` writes. -/
def syncedRow (db : Db) (period : AcademicPeriod) (row : StudentPeriodFee) : StudentPeriodFee :=
  let paymentTotal := paidSince db row.schoolId row.studentId period.startsAt
  let classification := classify (paymentTotal + row.creditAdjustments)
    (row.feeAmount + row.carriedArrears)
  { row with
    totalPaid := classification.cumulativeTotal
    remainingBalance := some classification.remainingBalance
    feePaid := classification.feePaid }

theorem currentRow_sat {r : StudentPeriodFee} (hperiod : currentPeriodOf db schoolId = some period)
    (h : currentRow db schoolId studentId = some r) :
    r ∈ db.studentPeriodFees.docs ∧ r.key = (schoolId, studentId, period.id) := by
  rw [currentRow, hperiod] at h
  have hsat := db.studentPeriodFees.findOne_sat h
  simp only [Bool.and_eq_true, beq_iff_eq] at hsat
  exact ⟨db.studentPeriodFees.mem_of_findOne h, by
    rw [StudentPeriodFee.key, hsat.1.1, hsat.1.2, hsat.2]⟩

theorem currentRow_of_mem {r : StudentPeriodFee} (hperiod : currentPeriodOf db schoolId = some period)
    (hr : r ∈ db.studentPeriodFees.docs) (hkey : r.key = (schoolId, studentId, period.id)) :
    currentRow db schoolId studentId = some r := by
  rw [StudentPeriodFee.key, Prod.mk.injEq, Prod.mk.injEq] at hkey
  rw [currentRow, hperiod]
  refine db.studentPeriodFees.findOne_eq_some_of_key hr (by simp [hkey]) fun e _ he => ?_
  simp only [Bool.and_eq_true, beq_iff_eq] at he
  simp only [StudentPeriodFee.key, he.1.1, he.1.2, he.2, hkey]

/-- The store after a recompute of a student who has a row in the current period. -/
theorem syncCurrentPeriodFee_row (db : Db) {r : StudentPeriodFee}
    (hperiod : currentPeriodOf db schoolId = some period)
    (hrow : currentRow db schoolId studentId = some r) :
    syncCurrentPeriodFee db schoolId studentId =
      { db with studentPeriodFees := db.studentPeriodFees.save (syncedRow db period r) } := by
  have hkey := (currentRow_sat hperiod hrow).2
  rw [StudentPeriodFee.key, Prod.mk.injEq, Prod.mk.injEq] at hkey
  rw [currentRow, hperiod] at hrow
  rw [currentPeriodOf] at hperiod
  rw [syncCurrentPeriodFee, hperiod]
  dsimp only [Option.bind_some] at hrow ⊢
  rw [hrow]
  simp only [syncedRow, paidSince, hkey.1, hkey.2.1]

theorem OpenedAt.recompute (h : OpenedAt db schoolId studentId period fee arrears credit rowCredit) :
    OpenedAt (updateStudentBalance db schoolId studentId).2 schoolId studentId period fee arrears
        credit rowCredit ∧
      Recomputed (updateStudentBalance db schoolId studentId).2 schoolId studentId fee arrears
        (sumCanonicalPayments db schoolId studentId none + credit)
        (paidSince db schoolId studentId period.startsAt + rowCredit) := by
  obtain ⟨s, hs, hfee, hcredit⟩ := h.student
  obtain ⟨r, hr, hrfee, hrarrears, hrcredit⟩ := h.row
  obtain ⟨-, hschool, hstudent⟩ := Db.findStudent_sat hs
  have hfound := findStudent_withBalance hs
  have hkey := (currentRow_sat h.period hr).2
  have hids := hkey
  rw [StudentPeriodFee.key, Prod.mk.injEq, Prod.mk.injEq] at hids
  let saved : Db := { db with students := db.students.save (withBalance db s) }
  have hsync := syncCurrentPeriodFee_row saved h.period hr
  have hupdate : (updateStudentBalance db schoolId studentId).2 =
      { saved with studentPeriodFees := db.studentPeriodFees.save (syncedRow saved period r) } := by
    rw [updateStudentBalance, hs]
    exact hsync
  have hperiod : currentPeriodOf (updateStudentBalance db schoolId studentId).2 schoolId =
      some period := by
    rw [hupdate]
    exact h.period
  have hrow : currentRow (updateStudentBalance db schoolId studentId).2 schoolId studentId =
      some (syncedRow saved period r) := by
    refine currentRow_of_mem hperiod ?_ hkey
    rw [hupdate]
    exact db.studentPeriodFees.mem_save.mpr
      (Or.inl ⟨rfl, r, (currentRow_sat h.period hr).1, rfl⟩)
  refine ⟨⟨⟨_, hfound, hfee, hcredit⟩, hperiod, ⟨_, hrow, hrfee, hrarrears, hrcredit⟩⟩,
    ⟨⟨_, hfound, ?_, ?_, ?_⟩, ⟨_, hrow, ?_⟩⟩⟩
  · simp only [withBalance, balanceOf, classify, hschool, hstudent, hcredit]
  · simp only [withBalance, balanceOf, classify, hschool, hstudent, hcredit, hfee]
  · simp only [withBalance, balanceOf, classify, hschool, hstudent, hcredit, hfee]
  · have hsame : paidSince saved r.schoolId r.studentId period.startsAt =
        paidSince db schoolId studentId period.startsAt := by
      rw [hids.1, hids.2.1]
      rfl
    simp only [syncedRow, classify, hsame, hrfee, hrarrears, hrcredit]

end Recompute

/-! ## Payments after the rollover -/

/-- A payment of the student in the period: it counts, and it was made after the start. -/
structure LaterPayment (schoolId studentId : String) (period : AcademicPeriod) (p : Payment) :
    Prop where
  counted : canonicalPaidMatch schoolId studentId none p = true
  started : period.startsAt ≤ p.createdAt
  nonneg : 0 ≤ p.amount

/-- Record payments one after the other, with a recompute before the first and after each;
`none` when a row is a duplicate. -/
def payLater (schoolId studentId : String) (db : Db) : List Payment → Option Db
  | [] => some (updateStudentBalance db schoolId studentId).2
  | p :: ps =>
    let db := (updateStudentBalance db schoolId studentId).2
    (db.payments.insert p).bind fun payments =>
      payLater schoolId studentId { db with payments := payments } ps

theorem OpenedAt.payLater {schoolId studentId : String} {period : AcademicPeriod}
    {fee arrears credit rowCredit : Int} {ps : List Payment} {db db' : Db}
    (h : OpenedAt db schoolId studentId period fee arrears credit rowCredit)
    (hps : ∀ p ∈ ps, LaterPayment schoolId studentId period p)
    (hpay : StellarEduPay.payLater schoolId studentId db ps = some db') :
    Recomputed db' schoolId studentId fee arrears
      (sumCanonicalPayments db schoolId studentId none + credit + (ps.map Payment.amount).sum)
      (paidSince db schoolId studentId period.startsAt + rowCredit +
        (ps.map Payment.amount).sum) := by
  obtain ⟨hopened, hrecomputed⟩ := h.recompute
  induction ps generalizing db with
  | nil =>
    obtain rfl := Option.some.inj hpay
    simpa using hrecomputed
  | cons p ps ih =>
    obtain ⟨payments, hins, hrest⟩ := Option.bind_eq_some_iff.mp hpay
    have hp := hps p List.mem_cons_self
    -- the recompute before it left the payments alone, and recording changes only them
    have hpayments : (updateStudentBalance db schoolId studentId).2.payments = db.payments :=
      updateStudentBalance_payments ..
    have hnext : OpenedAt { (updateStudentBalance db schoolId studentId).2 with payments := payments }
        schoolId studentId period fee arrears credit rowCredit :=
      ⟨hopened.student, hopened.period, hopened.row⟩
    have hfinal := ih hnext (fun q hq => hps q (List.mem_cons_of_mem _ hq)) hrest
      hnext.recompute.1 hnext.recompute.2
    have hsum := sumCanonicalPayments_insert hins schoolId studentId
    have hsince := paidSince_insert hins hp.counted hp.started
    obtain ⟨howner, hcounted⟩ := (canonicalPaidMatch_none schoolId studentId p).mp hp.counted
    have hcontribution : contribution (schoolId, studentId) p = p.amount := by
      simp [contribution, howner, Payment.credited, hcounted]
    have hold : sumCanonicalPayments (updateStudentBalance db schoolId studentId).2 schoolId
        studentId none = sumCanonicalPayments db schoolId studentId none := by
      simp only [sumCanonicalPayments, hpayments]
    have holdSince : paidSince (updateStudentBalance db schoolId studentId).2 schoolId studentId
        period.startsAt = paidSince db schoolId studentId period.startsAt := by
      simp only [paidSince, hpayments]
    rw [hsum, hsince, hcontribution, hold, holdSince] at hfinal
    rw [List.map_cons, List.sum_cons]
    have htotal : sumCanonicalPayments db schoolId studentId none + p.amount + credit +
        (ps.map Payment.amount).sum = sumCanonicalPayments db schoolId studentId none + credit +
          (p.amount + (ps.map Payment.amount).sum) := by omega
    have hsincetotal : paidSince db schoolId studentId period.startsAt + p.amount + rowCredit +
        (ps.map Payment.amount).sum = paidSince db schoolId studentId period.startsAt + rowCredit +
          (p.amount + (ps.map Payment.amount).sum) := by omega
    rwa [htotal, hsincetotal] at hfinal

/-- Credit on the row a student already has in the new period. -/
def PeriodDb.rowCredit (store : PeriodDb) (student : Student) (periodId : String) : Int :=
  ((store.periodFee student.schoolId student.studentId periodId).map
    StudentPeriodFee.creditAdjustments).getD 0

/-- **The rollover survives** for a student: after any later payments the student owes what is
left of the new fee and the arrears, on the student document and on the current row alike, and
without payments the figures are those the rollover wrote. -/
def RolloverSurvives (db : Db) (schoolId studentId : String) (period : AcademicPeriod)
    (fee arrears : Int) : Prop :=
  ∀ ps db', (∀ p ∈ ps, LaterPayment schoolId studentId period p) →
    payLater schoolId studentId db ps = some db' →
    ∃ s r, db'.findStudent schoolId studentId = some s ∧
      currentRow db' schoolId studentId = some r ∧
      (ps = [] → s.totalPaid = 0 ∧ s.remainingBalance = some (fee + arrears) ∧
        s.feePaid = decide (fee + arrears ≤ 0)) ∧
      s.remainingBalance = some (max 0 (fee + arrears - (ps.map Payment.amount).sum)) ∧
      r.remainingBalance = s.remainingBalance

theorem sum_nonneg_of_later {schoolId studentId : String} {period : AcademicPeriod}
    {ps : List Payment} (h : ∀ p ∈ ps, LaterPayment schoolId studentId period p) :
    0 ≤ (ps.map Payment.amount).sum := by
  refine List.sum_nonneg fun a ha => ?_
  obtain ⟨p, hp, rfl⟩ := List.mem_map.mp ha
  exact (h p hp).nonneg

/-- What surviving asks of the figures the student was opened with. -/
theorem OpenedAt.survives_iff {db : Db} {schoolId studentId : String} {period : AcademicPeriod}
    {fee arrears credit rowCredit : Int}
    (h : OpenedAt db schoolId studentId period fee arrears credit rowCredit)
    (hfee : 0 ≤ fee) (harrears : 0 ≤ arrears) :
    RolloverSurvives db schoolId studentId period fee arrears ↔
      sumCanonicalPayments db schoolId studentId none + credit = 0 ∧ arrears = 0 ∧
        (fee = 0 ∧ 0 ≤ paidSince db schoolId studentId period.startsAt + rowCredit ∨
          paidSince db schoolId studentId period.startsAt + rowCredit = 0) := by
  constructor
  · intro hsurvives
    obtain ⟨s, r, hs, hr, hwritten, -, hsame⟩ := hsurvives [] _ (by simp) rfl
    obtain ⟨htotal, hremaining, -⟩ := hwritten rfl
    have hrecomputed := h.recompute.2
    obtain ⟨s', hs', htotal', hremaining', -⟩ := hrecomputed.student
    obtain ⟨r', hr', hrow'⟩ := hrecomputed.row
    obtain rfl : s = s' := Option.some.inj (hs.symm.trans hs')
    obtain rfl : r = r' := Option.some.inj (hr.symm.trans hr')
    have hdue : fee + arrears =
        max 0 (fee - (sumCanonicalPayments db schoolId studentId none + credit)) :=
      Option.some.inj (hremaining.symm.trans hremaining')
    have hrow : max 0 (fee + arrears -
        (paidSince db schoolId studentId period.startsAt + rowCredit)) = fee + arrears :=
      Option.some.inj (hrow'.symm.trans (hsame.trans hremaining))
    have hzero := htotal'.symm.trans htotal
    refine ⟨hzero, ?_, ?_⟩
    · omega
    · omega
  · rintro ⟨hzero, rfl, hsince⟩ ps db' hps hpay
    have hsum := sum_nonneg_of_later hps
    have hrecomputed := h.payLater hps hpay
    obtain ⟨s, hs, htotal, hremaining, hpaid⟩ := hrecomputed.student
    obtain ⟨r, hr, hrow⟩ := hrecomputed.row
    refine ⟨s, r, hs, hr, ?_, ?_, ?_⟩
    · rintro rfl
      simp only [List.map_nil, List.sum_nil, Int.add_zero, hzero] at htotal hremaining hpaid
      refine ⟨htotal, ?_, ?_⟩
      · rw [hremaining]
        exact congrArg some (by omega)
      · rw [hpaid, Int.add_zero]
    · rw [hremaining]
      exact congrArg some (by omega)
    · rw [hrow, hremaining]
      exact congrArg some (by omega)

/-! ## The state a rollover opens -/

section Rollover
variable {store store' : PeriodDb} {closing next : AcademicPeriod} {req : RolloverRequest}
  {student : Student}

theorem studentsOf_mem {schoolId : String} (h : student ∈ store.studentsOf schoolId) :
    student ∈ store.db.students.docs ∧ student.schoolId = schoolId ∧ student.live = true := by
  simpa [PeriodDb.studentsOf] using h

/-- The students of a school have distinct keys. -/
theorem nodup_studentsOf (store : PeriodDb) (schoolId : String) :
    ((store.studentsOf schoolId).map Student.key).Nodup :=
  store.db.students.nodup.sublist (List.filter_sublist.map _)

theorem arrears_nonneg (closing : AcademicPeriod) (student : Student) :
    0 ≤ store.arrears closing student := by
  unfold PeriodDb.arrears
  split
  · exact Int.le_max_left _ _
  · split
    · exact Int.le_max_left _ _
    · exact Int.le_refl 0

theorem newFeeAmount_nonneg (h : 0 ≤ student.feeAmount) : 0 ≤ store.newFeeAmount student := by
  unfold PeriodDb.newFeeAmount
  split
  · exact FeeStructure.nonneg _
  · exact h

/-- The row of a period, by its key. -/
theorem periodFee_of_mem (store : PeriodDb) {periodId : String} {r : StudentPeriodFee}
    (hr : r ∈ store.db.studentPeriodFees.docs)
    (hkey : r.key = (student.schoolId, student.studentId, periodId)) :
    store.periodFee student.schoolId student.studentId periodId = some r := by
  rw [StudentPeriodFee.key, Prod.mk.injEq, Prod.mk.injEq] at hkey
  refine store.db.studentPeriodFees.findOne_eq_some_of_key hr (by simp [hkey]) fun e _ he => ?_
  simp only [Bool.and_eq_true, beq_iff_eq] at he
  simp only [StudentPeriodFee.key, he.1.1, he.1.2, he.2, hkey]

theorem periodFee_eq_none (store : PeriodDb) {periodId : String}
    (h : ∀ r ∈ store.db.studentPeriodFees.docs,
      r.key ≠ (student.schoolId, student.studentId, periodId)) :
    store.periodFee student.schoolId student.studentId periodId = none := by
  refine store.db.studentPeriodFees.findOne_eq_none.mpr fun r hr => ?_
  by_contra hsat
  simp only [Bool.not_eq_false, Bool.and_eq_true, beq_iff_eq] at hsat
  exact h r hr (by rw [StudentPeriodFee.key, hsat.1.1, hsat.1.2, hsat.2])

theorem rollover_payments (store : PeriodDb) (closing next : AcademicPeriod) (schoolId : String) :
    (store.rolloverTransaction closing next schoolId).db.payments = store.db.payments :=
  (rollover_fold_frame store closing next (store.studentsOf schoolId)
    (store.rolloverPeriods closing next).db).1

theorem rollover_academicPeriods (store : PeriodDb) (closing next : AcademicPeriod)
    (schoolId : String) :
    (store.rolloverTransaction closing next schoolId).db.academicPeriods =
      store.db.academicPeriods.map (PeriodDb.movePeriods closing next) :=
  (rollover_fold_frame store closing next (store.studentsOf schoolId)
    (store.rolloverPeriods closing next).db).2

theorem currentPeriodOf_rollover (hone : OnePeriod store req.schoolId)
    (hpre : store.preflight req = .ok (closing, next)) :
    currentPeriodOf (store.rolloverTransaction closing next req.schoolId).db req.schoolId =
      some { next with isCurrent := true } := by
  rw [currentPeriodOf, rollover_academicPeriods]
  exact currentPeriod_moved hone hpre

/-- **A rollover opens the new period** for each student with the new fee and the arrears. -/
theorem rollover_opened (hone : OnePeriod store req.schoolId)
    (hpre : store.preflight req = .ok (closing, next))
    (hstudent : student ∈ store.studentsOf req.schoolId) :
    OpenedAt (store.rolloverTransaction closing next req.schoolId).db req.schoolId
      student.studentId { next with isCurrent := true } (store.newFeeAmount student)
      (store.arrears closing student) student.creditAdjustments
      (store.rowCredit student next.id) := by
  obtain ⟨hstored, hschool, hlive⟩ := studentsOf_mem hstudent
  have hmoved : student ∈ (store.rolloverPeriods closing next).db.students.docs := hstored
  obtain ⟨hnew, hrow⟩ := rollover_fold_self store closing next (nodup_studentsOf store req.schoolId)
    hstudent hmoved
  have hperiod := currentPeriodOf_rollover hone hpre
  have hfound := Db.findStudent_of_mem hnew hlive
  rw [show (openStudent (store.newFeeAmount student) (store.arrears closing student)
    student).schoolId = req.schoolId from hschool] at hfound
  refine ⟨⟨_, hfound, rfl, rfl⟩, hperiod, ?_⟩
  · rcases hrow with ⟨r, hr, hkey, hmem⟩ | ⟨hfresh, hmem⟩
    · refine ⟨_, currentRow_of_mem hperiod hmem ?_, rfl, rfl, ?_⟩
      · rw [openRow_key, hkey, hschool]
      · rw [PeriodDb.rowCredit, periodFee_of_mem store hr hkey]
        rfl
    · refine ⟨_, currentRow_of_mem hperiod hmem ?_, rfl, rfl, ?_⟩
      · rw [← hschool]
        rfl
      · rw [PeriodDb.rowCredit, periodFee_eq_none store hfresh]
        rfl

end Rollover

/-! ## A school of one student and two terms -/

def firstTerm : AcademicPeriod := ⟨"P0", "SCH", true, 0⟩

def secondTerm : AcademicPeriod := ⟨"P1", "SCH", false, 100⟩

/-- The school in its first term. -/
def schoolTerms (db : Db) : PeriodDb where
  db := { db with academicPeriods := [firstTerm, secondTerm] }
  closedPeriods := []
  feeStructures := .empty
  className := fun _ => "JSS1"

def toSecondTerm : RolloverRequest := ⟨"SCH", "P1", "admin"⟩

theorem schoolTerms_onePeriod (db : Db) : OnePeriod (schoolTerms db) "SCH" where
  ids := show ["P0", "P1"].Nodup by decide
  current := show ∀ p ∈ [firstTerm, secondTerm], ∀ q ∈ [firstTerm, secondTerm],
    p.schoolId = "SCH" → q.schoolId = "SCH" → p.isCurrent = true → q.isCurrent = true →
      p.id = q.id by decide

/-- A student who enrolled during the first term: nothing assigned, nothing paid. -/
def enrolledStudent : Student := { paidStudent with
  feePaid := false, totalPaid := 0, remainingBalance := none }

def enrolledDb : Db := { paidDb with
  payments := .empty, students := ⟨[enrolledStudent], by decide⟩ }

end StellarEduPay
