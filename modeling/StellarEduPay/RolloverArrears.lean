import StellarEduPay.Checks
import StellarEduPay.JsString
import StellarEduPay.RolloverBalances

/-! # What a rollover carries forward

A rollover goes through the students in batches and writes each batch at once, and its transaction may
run again after an attempt that is discarded.  Nothing owed is lost or carried twice: in batches it
writes what it would write student by student, and what the next period takes over is the sum of what
they owed.
-/
namespace StellarEduPay
open Checks

/-! ## The store and the counters -/

/-- The store with the aggregate arrears of each period. -/
structure ArrearsStore extends PeriodDb where
  carriedForwardArrears : String → Int

/-- The two counters of a rollover, which outlive an attempt of its transaction. -/
structure RolloverCounters where
  studentsRolledOver : Nat
  totalArrears : Int
  deriving DecidableEq, Repr

/-- `ROLLOVER_BATCH_SIZE`. -/
def rolloverBatchSize : Nat := 500

/-- What is written for a student: an entry of `periodOps` and one of `studentOps`. -/
structure RolloverOp where
  student : Student
  newFeeAmount : Int
  arrears : Int

namespace PeriodDb
variable (store : PeriodDb)

def rolloverOp (closing : AcademicPeriod) (student : Student) : RolloverOp :=
  ⟨student, store.newFeeAmount student, store.arrears closing student⟩

/-- The loop over a batch counts, and collects what is written. -/
def countStudent (closing : AcademicPeriod) (counters : RolloverCounters) (student : Student) :
    RolloverCounters :=
  { studentsRolledOver := counters.studentsRolledOver + 1
    totalArrears := counters.totalArrears + store.arrears closing student }

end PeriodDb

/-- The two `bulkWrite`s of a batch. -/
def Db.bulkWrite (db : Db) (next : AcademicPeriod) (ops : List RolloverOp) : Db :=
  { db with
    studentPeriodFees := db.studentPeriodFees.upsertAll ops
      (fun op => newRow op.student next.id op.newFeeAmount op.arrears)
      (fun op => openRow op.newFeeAmount op.arrears) fun op => openRow_key op.newFeeAmount op.arrears
    students := db.students.modifyAll ops (·.student.key)
      (fun op => openStudent op.newFeeAmount op.arrears)
      fun op => openStudent_key op.newFeeAmount op.arrears }

namespace PeriodDb
variable (store : PeriodDb)

/-- One batch; fees and arrears were read at the start of the transaction. -/
def rolloverBatch (closing next : AcademicPeriod) (progress : Db × RolloverCounters)
    (batch : List Student) : Db × RolloverCounters :=
  (progress.1.bulkWrite next (batch.map (store.rolloverOp closing)),
    batch.foldl (store.countStudent closing) progress.2)

/-- The batches of a school. -/
def rolloverBatches (schoolId : String) : List (List Student) :=
  slices rolloverBatchSize (store.studentsOf schoolId)

/-- The callback of the transaction; it resets the counters that a discarded attempt left. -/
def rolloverCallback (closing next : AcademicPeriod) (schoolId : String) (_left : RolloverCounters) :
    Db × RolloverCounters :=
  let counters : RolloverCounters := ⟨0, 0⟩
  let moved := store.rolloverPeriods closing next
  (store.rolloverBatches schoolId).foldl (store.rolloverBatch closing next) (moved.db, counters)

end PeriodDb

namespace ArrearsStore

/-- `rolloverToNextPeriod`: the checks read one store, and the attempt that commits finds another, after
attempts that were discarded. -/
def rolloverToNextPeriod (checked : PeriodDb) (left : RolloverCounters) (store : ArrearsStore)
    (req : RolloverRequest) : Except RolloverError (ArrearsStore × RolloverCounters) := do
  let (closing, next) ← checked.preflight req
  let (db, counters) := store.rolloverCallback closing next req.schoolId left
  pure ({ store.rolloverPeriods closing next with
    db
    carriedForwardArrears :=
      Function.update store.carriedForwardArrears next.id counters.totalArrears }, counters)

end ArrearsStore

/-! ## Batches and single students -/

section Batches
variable {store : PeriodDb} {closing next : AcademicPeriod}

/-- **A batch** writes what the writes for its students would, by induction on the batch. -/
theorem bulkWrite_eq (store : PeriodDb) (closing next : AcademicPeriod) (db : Db)
    (batch : List Student) :
    db.bulkWrite next (batch.map (store.rolloverOp closing)) =
      batch.foldl (store.rolloverStudent closing next) db := by
  induction batch generalizing db with
  | nil => rfl
  | cons student batch ih => exact ih (store.rolloverStudent closing next db student)

/-- The batches together are the students one after the other. -/
theorem rolloverBatches_foldl (progress : Db × RolloverCounters) (batches : List (List Student)) :
    batches.foldl (store.rolloverBatch closing next) progress =
      (batches.flatten.foldl (store.rolloverStudent closing next) progress.1,
        batches.flatten.foldl (store.countStudent closing) progress.2) := by
  induction batches generalizing progress with
  | nil => rfl
  | cons batch batches ih =>
    rw [List.foldl_cons, ih, List.flatten_cons, List.foldl_append, List.foldl_append,
      PeriodDb.rolloverBatch, bulkWrite_eq]

theorem countStudent_foldl (counters : RolloverCounters) (students : List Student) :
    students.foldl (store.countStudent closing) counters =
      ⟨counters.studentsRolledOver + students.length,
        counters.totalArrears + (students.map (store.arrears closing)).sum⟩ := by
  induction students generalizing counters with
  | nil => simp
  | cons student students ih =>
    have hnumber : counters.studentsRolledOver + 1 + students.length =
        counters.studentsRolledOver + (students.length + 1) := by omega
    rw [List.foldl_cons, ih, List.map_cons, List.sum_cons, List.length_cons, ← hnumber, ← Int.add_assoc]
    rfl

/-- **The callback** comes to the rollover student by student, whatever the counters were. -/
theorem rolloverCallback_eq (store : PeriodDb) (closing next : AcademicPeriod) (schoolId : String)
    (left : RolloverCounters) : store.rolloverCallback closing next schoolId left =
      ((store.rolloverTransaction closing next schoolId).db,
        ⟨(store.studentsOf schoolId).length,
          ((store.studentsOf schoolId).map (store.arrears closing)).sum⟩) := by
  rw [PeriodDb.rolloverCallback, rolloverBatches_foldl, PeriodDb.rolloverBatches,
    flatten_slices (by decide), countStudent_foldl, Nat.zero_add, Int.zero_add]
  rfl

end Batches

/-! ## What is carried forward -/

/-- What a student owes when a period closes: of the period's row, or of the student document where
there is none. -/
def OwedAtClose (store : PeriodDb) (closing : AcademicPeriod) (student : Student) (owed : Int) : Prop :=
  (∃ row ∈ store.db.studentPeriodFees.docs,
      row.key = (student.schoolId, student.studentId, closing.id) ∧
        owed = max 0 (row.feeAmount + row.carriedArrears - row.totalPaid)) ∨
    ((∀ row ∈ store.db.studentPeriodFees.docs,
        row.key ≠ (student.schoolId, student.studentId, closing.id)) ∧
      owed = max 0 (student.remainingBalance.getD 0))

section Arrears
variable {store : PeriodDb} {student : Student}

theorem arrears_owed (store : PeriodDb) (closing : AcademicPeriod) (student : Student) :
    OwedAtClose store closing student (store.arrears closing student) := by
  unfold PeriodDb.arrears
  cases hrow : store.periodFee student.schoolId student.studentId closing.id with
  | some row =>
    have hsat := store.db.studentPeriodFees.findOne_sat hrow
    simp only [Bool.and_eq_true, beq_iff_eq] at hsat
    refine Or.inl ⟨row, store.db.studentPeriodFees.mem_of_findOne hrow, ?_, rfl⟩
    rw [StudentPeriodFee.key, hsat.1.1, hsat.1.2, hsat.2]
  | none =>
    have hnone := store.db.studentPeriodFees.findOne_eq_none.mp hrow
    refine Or.inr ⟨fun row hmem hkey => ?_, ?_⟩
    · obtain ⟨hschool, hstudent, hperiod⟩ :
          row.schoolId = student.schoolId ∧ row.studentId = student.studentId ∧
            row.periodId = closing.id := by simpa [StudentPeriodFee.key] using hkey
      exact absurd (hnone row hmem) (by simp [hschool, hstudent, hperiod])
    · cases student.remainingBalance <;> rfl

/-- **A student's row** in the next period after a rollover. -/
theorem rollover_row (closing next : AcademicPeriod) {schoolId : String}
    (hstudent : student ∈ store.studentsOf schoolId) :
    ∃ row ∈ (store.rolloverTransaction closing next schoolId).db.studentPeriodFees.docs,
      row.key = (schoolId, student.studentId, next.id) ∧
        row.feeAmount = store.newFeeAmount student ∧
        row.carriedArrears = store.arrears closing student ∧
        row.remainingBalance = some (store.newFeeAmount student + store.arrears closing student) := by
  obtain ⟨hmem, hschool, -⟩ := studentsOf_mem hstudent
  obtain ⟨-, ⟨row, -, hkey, hrow⟩ | ⟨-, hrow⟩⟩ := @rollover_fold_self store closing next _
    (store.rolloverPeriods closing next).db _ (nodup_studentsOf store schoolId) hstudent hmem
  · exact ⟨_, hrow, by rw [openRow_key, hkey, hschool], rfl, rfl, rfl⟩
  · exact ⟨_, hrow, by rw [← hschool]; rfl, rfl, rfl, rfl⟩

end Arrears

/-- A student without a row who has 30 to pay. -/
def owingStudent : Student := { enrolledStudent with
  studentId := "STU002", remainingBalance := some 30 }

/-- The end of the first term; the other student has a row, and 70 to pay. -/
def arrearsTerms : ArrearsStore where
  toPeriodDb := schoolTerms { paidDb with
    students := ⟨[paidStudent, owingStudent], by decide⟩
    studentPeriodFees := ⟨[⟨"SCH", "STU001", "P0", 100, 20, 0, 50, some 70, false⟩], by decide⟩ }
  carriedForwardArrears := fun _ => 0

end StellarEduPay
