import StellarEduPay.AmountNumbers
import StellarEduPay.PeriodRollover

/-! # The other views of a balance

Besides `updateStudentBalance` two functions add up a student's payments.
`getStudentBalance` (`controllers/paymentQueryController.js`) reports the sum of all rows that are
not deleted; the cascade of `updateFeeStructure` (`controllers/feeController.js`) stores the sum of
the successful ones on every student of the class.  Neither looks at `creditAdjustments`, and both add
and subtract doubles where `updateStudentBalance` has decimals.
-/
namespace StellarEduPay
open Doubles

/-- The three figures of a balance as they are stored and reported. -/
structure NumberBalance where
  totalPaid : ℚ
  remainingBalance : ℚ
  feePaid : Bool
  deriving DecidableEq, Repr

/-- The rows of a student that are not deleted and meet `p`. -/
def rowsOf (db : Db) (schoolId studentId : String) (p : Payment → Bool) : List Payment :=
  db.payments.docs.filter fun row =>
    row.schoolId == schoolId && row.studentId == studentId && row.live && p row

section Views
-- how MongoDB adds doubles in a `$sum`
variable (dollarSum : List ℚ → ℚ)

/-- `{ $sum: '$amount' }` over these rows; without any there is no group, and the sum is taken as 0. -/
def sumRows (db : Db) (schoolId studentId : String) (p : Payment → Bool) : ℚ :=
  let rows := rowsOf db schoolId studentId p
  if rows = [] then 0 else dollarSum (rows.map fun row => stroopsToNumber row.amount)

/-! ## `getStudentBalance` -/

/-- An entry of `categoryBreakdown`. -/
structure CategoryBalance where
  category : String
  amount : ℚ
  totalPaid : ℚ
  remainingBalance : ℚ
  paid : Bool
  installmentCount : Nat
  deriving DecidableEq, Repr

/-- The response, without the conversions to the local currency. -/
structure BalanceReport where
  studentId : String
  feeAmount : ℚ
  totalPaid : ℚ
  remainingBalance : ℚ
  excessAmount : ℚ
  feePaid : Bool
  installmentCount : Nat
  categoryBreakdown : List CategoryBalance
  hasDeletedPayments : Bool
  deriving DecidableEq, Repr

def categoryBalance (db : Db) (schoolId studentId : String) (fee : FeeCategory) : CategoryBalance :=
  let inCategory (row : Payment) : Bool := row.feeCategory == some fee.category
  let totalPaid := fixedNumber (sumRows dollarSum db schoolId studentId inCategory)
  let amount := stroopsToNumber fee.amount
  { category := fee.category
    amount := amount
    totalPaid := totalPaid
    remainingBalance := max 0 (sub amount totalPaid)
    paid := decide (amount ≤ totalPaid)
    installmentCount := (rowsOf db schoolId studentId inCategory).length }

/-- `getStudentBalance`; there is none of a student that is not found. -/
def getStudentBalance (db : Db) (schoolId studentId : String) : Option BalanceReport :=
  (db.findStudent schoolId studentId).map fun student =>
    let totalPaid := fixedNumber (sumRows dollarSum db schoolId studentId fun _ => true)
    let feeAmount := stroopsToNumber student.feeAmount
    { studentId := studentId
      feeAmount := feeAmount
      totalPaid := totalPaid
      remainingBalance := fixedNumber (max 0 (sub feeAmount totalPaid))
      excessAmount := if feeAmount < totalPaid then fixedNumber (sub totalPaid feeAmount) else 0
      feePaid := decide (feeAmount ≤ totalPaid)
      installmentCount := (rowsOf db schoolId studentId fun _ => true).length
      categoryBreakdown := student.fees.map (categoryBalance dollarSum db schoolId studentId)
      hasDeletedPayments := db.payments.docs.any fun row =>
        row.schoolId == schoolId && row.studentId == studentId && !row.live }

def BalanceReport.figures (report : BalanceReport) : NumberBalance :=
  ⟨report.totalPaid, report.remainingBalance, report.feePaid⟩

/-! ## `updateFeeStructure` -/

/-- The body of a request, as far as it reaches students. -/
structure FeeStructureUpdate where
  className : String
  feeAmount : Option Int
  cascadeToStudents : Bool
  deriving DecidableEq, Repr

inductive FeeStructureError
  | feeAmountRequired
  | negativeFee
  | notFound (className : String)
  deriving DecidableEq, Repr

def FeeStructureError.code : FeeStructureError → String
  | .feeAmountRequired => "VALIDATION_ERROR"
  | .negativeFee => "ValidationError"
  | .notFound _ => "NOT_FOUND"

def FeeStructureError.message : FeeStructureError → String
  | .feeAmountRequired => "feeAmount is required"
  | .negativeFee => "Fee amount cannot be negative"
  | .notFound className => "No active fee structure found for class " ++ className

/-- An operation of the bulk write: what a student is set to. -/
structure BalanceUpdate where
  key : String × String
  feeAmount : ℚ
  figures : NumberBalance
  deriving DecidableEq, Repr

/-- A row of `StudentFeeHistory`. -/
structure FeeHistory where
  schoolId : String
  studentId : String
  category : String
  amount : ℚ
  figures : NumberBalance
  deriving DecidableEq, Repr

/-- The figures of a student of the class: the sum is stored as MongoDB has it. -/
def cascaded (db : Db) (schoolId : String) (feeAmount : Int) (s : Student) : NumberBalance :=
  let amountPaid := sumRows dollarSum db schoolId s.studentId fun row => row.status == .success
  { totalPaid := amountPaid
    remainingBalance := max 0 (sub (stroopsToNumber feeAmount) amountPaid)
    feePaid := decide (stroopsToNumber feeAmount ≤ amountPaid) }

/-- The students of a class. -/
def studentsOf (store : PeriodDb) (schoolId className : String) : List Student :=
  store.db.students.docs.filter fun s =>
    s.live && s.schoolId == schoolId && store.className s.key == className

structure FeeStructureResult where
  store : PeriodDb
  updates : List BalanceUpdate
  history : List FeeHistory

def FeeStructureResult.studentsUpdated (r : FeeStructureResult) : Nat := r.updates.length

/-- The cascade: one update for each student of the class. -/
def cascade (store : PeriodDb) (schoolId className : String) (feeAmount : Int) : FeeStructureResult :=
  let students := studentsOf store schoolId className
  { store := store
    updates := students.map fun s =>
      ⟨s.key, stroopsToNumber feeAmount, cascaded dollarSum store.db schoolId feeAmount s⟩
    history := students.map fun s =>
      ⟨schoolId, s.studentId, className, stroopsToNumber feeAmount,
        cascaded dollarSum store.db schoolId feeAmount s⟩ }

def updateFeeStructure (store : PeriodDb) (schoolId : String) (req : FeeStructureUpdate) :
    Except FeeStructureError FeeStructureResult :=
  match req.feeAmount with
  | none => .error .feeAmountRequired
  | some feeAmount =>
    if h : 0 ≤ feeAmount then
      match store.feeStructures.findOne fun f => f.schoolId == schoolId &&
          f.className == req.className && f.isActive && f.deletedAt.isNone with
      | none => .error (.notFound req.className)
      | some fee =>
        let store := { store with
          feeStructures := store.feeStructures.save { fee with feeAmount := feeAmount, nonneg := h } }
        .ok (if req.cascadeToStudents then cascade dollarSum store schoolId req.className feeAmount
          else ⟨store, [], []⟩)
    else .error .negativeFee

/-! ## Agreement -/

/-- The three stored figures of a student. -/
def Student.figures (s : Student) : Option NumberBalance :=
  s.remainingBalance.map fun remainingBalance =>
    ⟨stroopsToNumber s.totalPaid, stroopsToNumber remainingBalance, s.feePaid⟩

/-- The store right after `updateStudentBalance`. -/
def settledStore (store : PeriodDb) (schoolId studentId : String) : PeriodDb :=
  { store with db := (updateStudentBalance store.db schoolId studentId).2 }

/-- Right after `updateStudentBalance` wrote `written`, the report and a cascade of the student's own
fee give the same figures. -/
structure ViewsAgree (store : PeriodDb) (schoolId studentId : String) (written : Student) : Prop where
  report : (getStudentBalance dollarSum (settledStore store schoolId studentId).db schoolId
    studentId).map BalanceReport.figures = written.figures
  cascade : ∃ r, updateFeeStructure dollarSum (settledStore store schoolId studentId) schoolId
      ⟨store.className written.key, some written.feeAmount, true⟩ = .ok r ∧
    (r.updates.find? (·.key = written.key)).map BalanceUpdate.figures = written.figures

/-- The rows that the views add come to the counted rows and the credits: all live ones at seven places,
the live successful ones to the very double; and where less than the fee is paid, the subtraction of
doubles loses nothing. -/
structure ViewsCovered (db : Db) (s : Student) : Prop where
  reported : fixedNumber (sumRows dollarSum db s.schoolId s.studentId fun _ => true) =
    stroopsToNumber (canonicalTotal db s)
  stored : sumRows dollarSum db s.schoolId s.studentId (fun row => row.status == .success) =
    stroopsToNumber (canonicalTotal db s)
  left : canonicalTotal db s < s.feeAmount →
    sub (stroopsToNumber s.feeAmount) (stroopsToNumber (canonicalTotal db s)) =
      stroopsToNumber (s.feeAmount - canonicalTotal db s)
  leftFixed : canonicalTotal db s < s.feeAmount →
    fixedNumber (stroopsToNumber (s.feeAmount - canonicalTotal db s)) =
      stroopsToNumber (s.feeAmount - canonicalTotal db s)

end Views

section
variable {dollarSum : List ℚ → ℚ} {db : Db} {store : PeriodDb} {schoolId studentId : String}

theorem withBalance_figures (s : Student) : (withBalance db s).figures =
    some ⟨stroopsToNumber (canonicalTotal db s),
      stroopsToNumber (max 0 (s.feeAmount - canonicalTotal db s)),
      decide (s.feeAmount ≤ canonicalTotal db s)⟩ := rfl

theorem sumRows_updateStudentBalance (a b : String) (p : Payment → Bool) :
    sumRows dollarSum (updateStudentBalance db schoolId studentId).2 a b p =
      sumRows dollarSum db a b p := by
  simp [sumRows, rowsOf]

/-! ### The report -/

theorem report_figures {s : Student} (hs : store.db.findStudent schoolId studentId = some s) :
    (getStudentBalance dollarSum (settledStore store schoolId studentId).db schoolId studentId).map
        BalanceReport.figures =
      let totalPaid := fixedNumber (sumRows dollarSum store.db schoolId studentId fun _ => true)
      some ⟨totalPaid, fixedNumber (max 0 (sub (stroopsToNumber s.feeAmount) totalPaid)),
        decide (stroopsToNumber s.feeAmount ≤ totalPaid)⟩ := by
  rw [getStudentBalance, settledStore, findStudent_withBalance hs]
  simp only [Option.map_some, BalanceReport.figures, sumRows_updateStudentBalance]
  rfl

/-! ### The cascade -/

/-- The class of the student has an active fee structure. -/
def HasFeeStructure (store : PeriodDb) (schoolId className : String) : Prop :=
  (store.feeStructures.findOne fun f => f.schoolId == schoolId && f.className == className &&
    f.isActive && f.deletedAt.isNone).isSome = true

instance (store : PeriodDb) (schoolId className : String) :
    Decidable (HasFeeStructure store schoolId className) :=
  inferInstanceAs (Decidable (_ = true))

theorem updateFeeStructure_ok {className : String} {feeAmount : Int} (hfee : 0 ≤ feeAmount)
    (hstructure : HasFeeStructure store schoolId className) :
    ∃ feeStructures, updateFeeStructure dollarSum store schoolId ⟨className, some feeAmount, true⟩ =
      .ok (cascade dollarSum { store with feeStructures := feeStructures } schoolId className
        feeAmount) := by
  obtain ⟨fee, hfound⟩ := Option.isSome_iff_exists.mp hstructure
  simp only [updateFeeStructure, dif_pos hfee, hfound, if_true]
  exact ⟨_, rfl⟩

/-- A student of the class is set once. -/
theorem cascade_update {className : String} {feeAmount : Int} {s : Student}
    (hs : store.db.findStudent schoolId studentId = some s)
    (hclass : store.className s.key = className) :
    ((cascade dollarSum store schoolId className feeAmount).updates.find? (·.key = s.key)).map
      BalanceUpdate.figures = some (cascaded dollarSum store.db schoolId feeAmount s) := by
  obtain ⟨hlive, hschool, -⟩ := Db.findStudent_sat hs
  have hin : s ∈ studentsOf store schoolId className :=
    List.mem_filter.mpr ⟨Db.findStudent_mem hs, by simp [hlive, hschool, hclass]⟩
  obtain ⟨found, hfound⟩ : ∃ found,
      (studentsOf store schoolId className).find? (fun x => x.key = s.key) = some found := by
    refine Option.isSome_iff_exists.mp ?_
    rw [List.find?_isSome]
    exact ⟨s, hin, decide_eq_true rfl⟩
  have hkey : found.key = s.key := by simpa using List.find?_some hfound
  have hmem := List.mem_of_mem_filter (List.mem_of_find?_eq_some hfound)
  obtain rfl := store.db.students.eq_of_key hmem (Db.findStudent_mem hs) hkey
  rw [cascade, List.find?_map, Option.map_map]
  have hcomp : ((fun u : BalanceUpdate => decide (u.key = found.key)) ∘ fun x : Student =>
      (⟨x.key, stroopsToNumber feeAmount, cascaded dollarSum store.db schoolId feeAmount x⟩ :
        BalanceUpdate)) = fun x => decide (x.key = found.key) := rfl
  rw [hcomp, hfound]
  rfl

theorem cascade_figures {s : Student} (hs : store.db.findStudent schoolId studentId = some s)
    (hfee : 0 ≤ s.feeAmount) (hstructure : HasFeeStructure store schoolId (store.className s.key)) :
    ∃ r, updateFeeStructure dollarSum (settledStore store schoolId studentId) schoolId
        ⟨store.className s.key, some s.feeAmount, true⟩ = .ok r ∧
      (r.updates.find? (·.key = s.key)).map BalanceUpdate.figures =
        let amountPaid :=
          sumRows dollarSum store.db schoolId studentId fun row => row.status == .success
        some ⟨amountPaid, max 0 (sub (stroopsToNumber s.feeAmount) amountPaid),
          decide (stroopsToNumber s.feeAmount ≤ amountPaid)⟩ := by
  obtain ⟨-, -, hstudent⟩ := Db.findStudent_sat hs
  obtain ⟨feeStructures, hok⟩ : ∃ feeStructures,
      updateFeeStructure dollarSum (settledStore store schoolId studentId) schoolId
          ⟨store.className s.key, some s.feeAmount, true⟩ =
        .ok (cascade dollarSum { settledStore store schoolId studentId with
          feeStructures := feeStructures } schoolId (store.className s.key) s.feeAmount) :=
    updateFeeStructure_ok hfee hstructure
  have hfound : (settledStore store schoolId studentId).db.findStudent schoolId studentId =
      some (withBalance store.db s) := findStudent_withBalance hs
  have hupdate := @cascade_update dollarSum
    { settledStore store schoolId studentId with feeStructures := feeStructures } schoolId studentId
    (store.className s.key) s.feeAmount _ hfound rfl
  refine ⟨_, hok, hupdate.trans ?_⟩
  have hrows : sumRows dollarSum (settledStore store schoolId studentId).db schoolId
      (withBalance store.db s).studentId (fun row => row.status == .success) =
      sumRows dollarSum store.db schoolId studentId fun row => row.status == .success := by
    rw [show (withBalance store.db s).studentId = studentId from hstudent]
    exact sumRows_updateStudentBalance ..
  simp only [cascaded, hrows]

/-- **The views of a balance agree exactly if the rows they add come to the counted ones and the
student's credit adjustments, and the doubles lose nothing on the way.** -/
theorem balance_views_agree_iff {s : Student}
    (hs : store.db.findStudent schoolId studentId = some s) (hfee : 0 ≤ s.feeAmount)
    (hstructure : HasFeeStructure store schoolId (store.className s.key)) :
    (∀ written, (updateStudentBalance store.db schoolId studentId).1 = some written →
      ViewsAgree dollarSum store schoolId studentId written) ↔ ViewsCovered dollarSum store.db s := by
  obtain ⟨-, hschool, hstudent⟩ := Db.findStudent_sat hs
  have hwritten : (updateStudentBalance store.db schoolId studentId).1 =
      some (withBalance store.db s) := by
    simp [updateStudentBalance, hs]
  have hreport := @report_figures dollarSum store schoolId studentId s hs
  obtain ⟨r, hok, hcascade⟩ := @cascade_figures dollarSum store schoolId studentId s hs hfee hstructure
  constructor
  · intro h
    obtain ⟨hr, r', hok', hc⟩ := h _ hwritten
    obtain rfl := Except.ok.inj (hok.symm.trans hok')
    rw [hreport, withBalance_figures] at hr
    rw [withBalance_figures] at hc
    obtain ⟨htotal, hremaining, -⟩ := NumberBalance.mk.inj (Option.some.inj hr)
    obtain ⟨hstored, hleft, -⟩ := NumberBalance.mk.inj (Option.some.inj (hcascade.symm.trans hc))
    rw [htotal] at hremaining
    rw [hstored] at hleft
    refine ⟨by rw [hschool, hstudent]; exact htotal, by rw [hschool, hstudent]; exact hstored,
      fun hlt => eq_of_max_eq (sub_pos.mpr hlt) hleft, fun hlt => ?_⟩
    rwa [hleft, max_eq_right (sub_pos.mpr hlt).le] at hremaining
  · rintro ⟨hreported, hstored, hleft, hfixed⟩ written hw
    obtain rfl := Option.some.inj (hwritten.symm.trans hw)
    rw [hschool, hstudent] at hreported hstored
    have hmax := max_sub_stroopsToNumber hleft
    have hpaid : decide (stroopsToNumber s.feeAmount ≤ stroopsToNumber (canonicalTotal store.db s)) =
        decide (s.feeAmount ≤ canonicalTotal store.db s) :=
      decide_eq_decide.mpr (stroopsToNumber_le_iff hleft)
    refine ⟨?_, r, hok, ?_⟩
    · rw [hreport, withBalance_figures]
      dsimp only
      rw [hreported, hmax, hpaid]
      congr 2
      rcases le_or_gt s.feeAmount (canonicalTotal store.db s) with hle | hlt
      · rw [max_eq_left (sub_nonpos.mpr hle), stroopsToNumber_zero, fixedNumber_zero]
      · rw [max_eq_right (sub_pos.mpr hlt).le]
        exact hfixed hlt
    · refine hcascade.trans ?_
      rw [withBalance_figures]
      dsimp only
      rw [hstored, hmax, hpaid]

end

/-- The store of the paid student with a fee structure for its class. -/
def paidStore : PeriodDb where
  db := paidDb
  closedPeriods := []
  feeStructures := ⟨[⟨"SCH", "JSS1", 1000000000, true, none, by decide⟩], by decide⟩
  className := fun _ => "JSS1"

/-- One plain successful payment: all views agree. -/
theorem balance_views_agree_iff_paid :
    (∀ written, (updateStudentBalance paidStore.db "SCH" "STU001").1 = some written →
      ViewsAgree total paidStore "SCH" "STU001" written) ∧
        ViewsCovered total paidStore.db paidStudent := by
  have hcovered : ViewsCovered total paidStore.db paidStudent :=
    ⟨by decide +kernel, by decide +kernel, by decide +kernel, by decide +kernel⟩
  exact ⟨(balance_views_agree_iff (by decide) (by decide) (by decide)).mpr hcovered, hcovered⟩

/-- The same store after another payment of the student failed. -/
def failedStore : PeriodDb :=
  { paidStore with db := { paidDb with payments :=
    ⟨[paidRow, { paidRow with txHash := "tx2", status := .failed }], by decide⟩ } }

/-- A failed payment counts in the report. -/
theorem failed_row_reported : ¬ ∀ (store : PeriodDb) (schoolId studentId : String) (s : Student),
    store.db.findStudent schoolId studentId = some s → 0 ≤ s.feeAmount →
    HasFeeStructure store schoolId (store.className s.key) →
    ∀ written, (updateStudentBalance store.db schoolId studentId).1 = some written →
      ViewsAgree total store schoolId studentId written := by
  intro hclaim
  have hviews := hclaim failedStore "SCH" "STU001" paidStudent (by decide) (by decide) (by decide) _ rfl
  exact absurd hviews.report (by decide +kernel)

end StellarEduPay
