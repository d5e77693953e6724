import Mathlib.Algebra.Order.BigOperators.Group.List
import Mathlib.Tactic.Ring
import StellarEduPay.AmountNumbers
import StellarEduPay.StudentBalance

/-! # Saving a student (`models/studentModel.js`)

A `pre('save')` hook recomputes the totals of a student from the entries of `fees`, which
`updateStudentBalance` computes from the payment rows.  The hook adds and subtracts the numbers of the
document, which are doubles; `updateStudentBalance` has decimals.
-/
namespace StellarEduPay
open Doubles

/-! ## The numbers of a document -/

@[ext] structure FeeNumbers where
  category : String
  amount : ℚ
  paid : Bool
  totalPaid : ℚ
  remainingBalance : Option ℚ
  deriving DecidableEq, Repr

/-- The fields of a student that the hook reads and writes. -/
structure StudentNumbers where
  schoolId : String
  studentId : String
  feeAmount : ℚ
  fees : List FeeNumbers
  feePaid : Bool
  totalPaid : ℚ
  remainingBalance : Option ℚ
  deriving DecidableEq, Repr

def FeeCategory.numbers (fee : FeeCategory) : FeeNumbers where
  category := fee.category
  amount := stroopsToNumber fee.amount
  paid := fee.paid
  totalPaid := stroopsToNumber fee.totalPaid
  remainingBalance := fee.remainingBalance.map stroopsToNumber

def Student.numbers (s : Student) : StudentNumbers where
  schoolId := s.schoolId
  studentId := s.studentId
  feeAmount := stroopsToNumber s.feeAmount
  fees := s.fees.map (·.numbers)
  feePaid := s.feePaid
  totalPaid := stroopsToNumber s.totalPaid
  remainingBalance := s.remainingBalance.map stroopsToNumber

/-! ## The hook -/

/-- `studentFeeHistoryModel` -/
structure StudentFeeHistory where
  schoolId : String
  studentId : String
  category : String
  amount : ℚ
  paid : Bool
  totalPaid : ℚ
  remainingBalance : Option ℚ
  deriving DecidableEq, Repr

/-- `parseInt(process.env.STUDENT_FEE_HISTORY_CAP, 10) || 100` -/
def feeHistoryCap (parsed : Option Int) : Int :=
  match parsed with
  | some cap => if cap = 0 then 100 else cap
  | none => 100

/-- The entries over the cap, the oldest ones, leave the document. -/
def archiveOverflow (cap : Int) (s : StudentNumbers) : StudentNumbers × List StudentFeeHistory :=
  if cap < s.fees.length then
    let overflow := (s.fees.length - cap).toNat
    let toArchive := s.fees.take overflow
    ({ s with fees := s.fees.drop overflow }, toArchive.map fun fee =>
      { schoolId := s.schoolId, studentId := s.studentId, category := fee.category, amount := fee.amount
        paid := fee.paid, totalPaid := fee.totalPaid, remainingBalance := fee.remainingBalance })
  else (s, [])

/-- An entry's balance from its `totalPaid`. -/
def FeeNumbers.refresh (fee : FeeNumbers) : FeeNumbers :=
  { fee with
    remainingBalance := some (max 0 (sub fee.amount fee.totalPaid))
    paid := decide (fee.amount ≤ fee.totalPaid) }

/-- The top-level totals from the entries, when there are any. -/
def syncTotals (s : StudentNumbers) : StudentNumbers :=
  if s.fees = [] then s
  else
    let feeAmount := total (s.fees.map (·.amount))
    let fees := s.fees.map (·.refresh)
    let totalPaid := total (fees.map (·.totalPaid))
    { s with
      feeAmount, fees, totalPaid
      remainingBalance := some (max 0 (sub feeAmount totalPaid))
      feePaid := fees.all (·.paid) }

/-- The hook; the archived entries are inserted beside the save. -/
def preSave (parsed : Option Int) (s : StudentNumbers) : StudentNumbers × List StudentFeeHistory :=
  let (s, archived) := archiveOverflow (feeHistoryCap parsed) s
  (syncTotals s, archived)

/-! ## What a save has to keep -/

/-- The rows that count for a student. -/
def countedRows (db : Db) (s : Student) : List Payment :=
  db.payments.docs.filter (canonicalPaidMatch s.schoolId s.studentId none)

/-- Paid without a fee category. -/
def uncategorised (db : Db) (s : Student) : Int :=
  (((countedRows db s).filter (·.feeCategory.isNone)).map (·.amount)).sum

/-- A change of other fields. -/
def Unrelated (edit : Student → Student) : Prop :=
  ∀ s, (edit s).fees = s.fees ∧ (edit s).feeAmount = s.feeAmount ∧ (edit s).totalPaid = s.totalPaid ∧
    (edit s).remainingBalance = s.remainingBalance ∧ (edit s).feePaid = s.feePaid

/-- **What a save has to keep** of the balance that was loaded; and what the entries say is paid adds up
with the rest. -/
structure KeepsBalance (db : Db) (loaded : Student) (saved : StudentNumbers) : Prop where
  totalPaid : saved.totalPaid = loaded.numbers.totalPaid
  remainingBalance : saved.remainingBalance = loaded.numbers.remainingBalance
  feePaid : saved.feePaid = loaded.feePaid
  fees : saved.fees = loaded.numbers.fees
  adds : (loaded.fees.map (·.totalPaid)).sum + uncategorised db loaded + loaded.creditAdjustments =
    loaded.totalPaid

/-- The fee entries a payment is counted under. -/
def entriesOf (s : Student) (p : Payment) : Nat :=
  s.fees.countP fun fee => p.feeCategory == some fee.category

/-- What the entries count beside each categorised payment once. -/
def overcounted (db : Db) (s : Student) : Int :=
  (((countedRows db s).filter (·.feeCategory.isSome)).map fun p =>
    p.amount * (entriesOf s p - 1)).sum

/-- What is paid to the category of an entry. -/
def paidTo (db : Db) (s : Student) (fee : FeeCategory) : Int :=
  sumCanonicalPayments db s.schoolId s.studentId (some fee.category)

/-- The payments the hook leads to the canonical totals for. -/
structure SaveAgrees (db : Db) (s : Student) : Prop where
  /-- Each categorised payment is counted once, or the others cancel. -/
  once : overcounted db s = 0
  /-- What the entries are paid makes up all that is paid: nothing is without a category, or the credits
  take it back, and no rounding is left. -/
  categorised : total (s.fees.map fun fee => stroopsToNumber (paidTo db s fee)) =
    stroopsToNumber (canonicalTotal db s)
  /-- Where something remains, the amounts of the entries come to as much more. -/
  left : canonicalTotal db s < s.feeAmount →
    sub (total (s.fees.map fun fee => stroopsToNumber fee.amount))
      (stroopsToNumber (canonicalTotal db s)) = stroopsToNumber (s.feeAmount - canonicalTotal db s)
  entryLeft : ∀ fee ∈ s.fees, paidTo db s fee < fee.amount →
    sub (stroopsToNumber fee.amount) (stroopsToNumber (paidTo db s fee)) =
      stroopsToNumber (fee.amount - paidTo db s fee)
  /-- A student has paid up with every category. -/
  covered : s.feeAmount ≤ canonicalTotal db s ↔ ∀ fee ∈ s.fees, fee.amount ≤ paidTo db s fee

/-! ## Sums over entries and over rows -/

section Sums
variable (db : Db) (s : Student)

theorem sumCanonicalPayments_rows (feeCategory : String) :
    sumCanonicalPayments db s.schoolId s.studentId (some feeCategory) =
      (((countedRows db s).filter (·.feeCategory == some feeCategory)).map (·.amount)).sum := by
  rw [sumCanonicalPayments, countedRows, List.filter_filter]
  congr 2
  refine List.filter_congr fun p _ => ?_
  simp [canonicalPaidMatch, Bool.and_comm]

/-- By induction on the entries: each adds the rows of its category. -/
theorem sum_categories (fees : List FeeCategory) (rows : List Payment) :
    (fees.map fun fee => ((rows.filter (·.feeCategory == some fee.category)).map (·.amount)).sum).sum =
      (rows.map fun p : Payment =>
        p.amount * (fees.countP fun fee => p.feeCategory == some fee.category)).sum := by
  induction fees with
  | nil => simp
  | cons fee fees ih =>
    rw [List.map_cons, List.sum_cons, ih, Collection.sum_filter, ← List.sum_map_add]
    refine congrArg List.sum (List.map_congr_left fun p _ => ?_)
    rw [List.countP_cons]
    split
    · push_cast
      ring
    · simp

/-- The rows with a category and those without. -/
theorem sum_rows_split (rows : List Payment) (f : Payment → Int) :
    (rows.map f).sum = ((rows.filter (·.feeCategory.isNone)).map f).sum +
      ((rows.filter (·.feeCategory.isSome)).map f).sum := by
  rw [Collection.sum_filter, Collection.sum_filter, ← List.sum_map_add]
  refine congrArg List.sum (List.map_congr_left fun p _ => ?_)
  cases p.feeCategory <;> simp

/-- What the entries' categories have been paid, entry by entry. -/
def entriesTotal : Int := (s.fees.map (paidTo db s)).sum

theorem canonicalTotal_rows :
    canonicalTotal db s = ((countedRows db s).map (·.amount)).sum + s.creditAdjustments :=
  rfl

/-- The entries, the payments without a category and the credits add up to the canonical total but
for what is counted too often or not at all. -/
theorem entriesTotal_add :
    entriesTotal db s + uncategorised db s + s.creditAdjustments =
      canonicalTotal db s + overcounted db s := by
  have hentries : entriesTotal db s = ((countedRows db s).map fun p : Payment =>
      p.amount * entriesOf s p).sum := by
    have hpaidTo : paidTo db s = fun fee : FeeCategory =>
        (((countedRows db s).filter (·.feeCategory == some fee.category)).map (·.amount)).sum :=
      funext fun fee => sumCanonicalPayments_rows db s fee.category
    rw [entriesTotal, hpaidTo]
    exact sum_categories s.fees (countedRows db s)
  have hnone : (((countedRows db s).filter (·.feeCategory.isNone)).map fun p : Payment =>
      p.amount * entriesOf s p).sum = 0 := by
    rw [Collection.sum_filter]
    refine List.sum_eq_zero fun x hx => ?_
    obtain ⟨p, -, rfl⟩ := List.mem_map.mp hx
    by_cases h : p.feeCategory.isNone = true
    · rw [if_pos h, entriesOf, Option.isNone_iff_eq_none.mp h]
      simp
    · rw [if_neg h]
  have hsome : (((countedRows db s).filter (·.feeCategory.isSome)).map fun p : Payment =>
      p.amount * entriesOf s p).sum = overcounted db s +
        (((countedRows db s).filter (·.feeCategory.isSome)).map (·.amount)).sum := by
    rw [overcounted, ← List.sum_map_add]
    refine congrArg List.sum (List.map_congr_left fun p _ => ?_)
    ring
  have hsplit := sum_rows_split (countedRows db s) fun p => p.amount * entriesOf s p
  have hrows := sum_rows_split (countedRows db s) (·.amount)
  rw [canonicalTotal_rows, uncategorised]
  omega

end Sums

/-! ## The save after a recompute -/

section Save
variable {db : Db} {s : Student}

/-- An entry after the recompute and the hook. -/
def refreshed (db : Db) (s : Student) (fee : FeeCategory) : FeeNumbers :=
  (updateFeeCategory db s fee).numbers.refresh

theorem archiveOverflow_within {cap : Int} {s : StudentNumbers} (h : (s.fees.length : Int) ≤ cap) :
    archiveOverflow cap s = (s, []) :=
  if_neg (not_lt.mpr h)

/-- What a save leaves of a recomputed student. -/
theorem preSave_withBalance {parsed : Option Int} {edit : Student → Student} (hedit : Unrelated edit)
    (hfees : s.fees ≠ []) (hcap : (s.fees.length : Int) ≤ feeHistoryCap parsed) :
    let saved := (preSave parsed (edit (withBalance db s)).numbers).1
    let paid := total (s.fees.map fun fee => stroopsToNumber (paidTo db s fee))
    saved.fees = s.fees.map (refreshed db s) ∧ saved.totalPaid = paid ∧
      saved.remainingBalance =
          some (max 0 (sub (total (s.fees.map fun fee => stroopsToNumber fee.amount)) paid)) ∧
        (saved.feePaid = true ↔ ∀ fee ∈ s.fees,
          stroopsToNumber fee.amount ≤ stroopsToNumber (paidTo db s fee)) := by
  obtain ⟨hsame, -⟩ := hedit (withBalance db s)
  generalize edit (withBalance db s) = edited at hsame ⊢
  have hentries : edited.numbers.fees = s.fees.map fun fee => (updateFeeCategory db s fee).numbers := by
    rw [Student.numbers, hsame, withBalance, List.map_map]
    rfl
  have hwithin : (edited.numbers.fees.length : Int) ≤ feeHistoryCap parsed := by
    rwa [hentries, List.length_map]
  have hnonempty : edited.numbers.fees ≠ [] := by simpa [hentries] using hfees
  have hrefresh : edited.numbers.fees.map (·.refresh) = s.fees.map (refreshed db s) := by
    rw [hentries, List.map_map]
    rfl
  have hamounts : edited.numbers.fees.map (·.amount) =
      s.fees.map fun fee => stroopsToNumber fee.amount := by
    rw [hentries, List.map_map]
    rfl
  have hpaid : (s.fees.map (refreshed db s)).map (·.totalPaid) =
      s.fees.map fun fee => stroopsToNumber (paidTo db s fee) := by
    rw [List.map_map]
    rfl
  rw [preSave, archiveOverflow_within hwithin]
  simp only [syncTotals, if_neg hnonempty, hrefresh, hamounts, hpaid, true_and]
  rw [List.all_map, List.all_eq_true]
  refine forall₂_congr fun fee _ => ?_
  exact decide_eq_true_iff

/-- The hook leaves a recomputed entry alone exactly where the subtraction of its numbers is right. -/
theorem refreshed_iff {fee : FeeCategory} :
    refreshed db s fee = (updateFeeCategory db s fee).numbers ↔
      (paidTo db s fee < fee.amount → sub (stroopsToNumber fee.amount)
        (stroopsToNumber (paidTo db s fee)) = stroopsToNumber (fee.amount - paidTo db s fee)) := by
  have hleft : (updateFeeCategory db s fee).numbers.remainingBalance =
      some (stroopsToNumber (max 0 (fee.amount - paidTo db s fee))) := rfl
  have hpaid : (updateFeeCategory db s fee).numbers.paid =
      decide (fee.amount ≤ paidTo db s fee) := rfl
  constructor
  · intro h hlt
    have hremaining := congrArg FeeNumbers.remainingBalance h
    rw [hleft] at hremaining
    exact eq_of_max_eq (sub_pos.mpr hlt) (Option.some.inj hremaining)
  · intro h
    have hremaining : (refreshed db s fee).remainingBalance =
        (updateFeeCategory db s fee).numbers.remainingBalance := by
      rw [hleft]
      exact congrArg some (max_sub_stroopsToNumber h)
    have hsame : (refreshed db s fee).paid = (updateFeeCategory db s fee).numbers.paid := by
      rw [hpaid]
      exact decide_eq_decide.mpr (stroopsToNumber_le_iff h)
    exact FeeNumbers.ext rfl rfl hsame rfl hremaining

/-- The hook leaves the entries alone. -/
theorem refreshed_fees_iff :
    s.fees.map (refreshed db s) = (withBalance db s).numbers.fees ↔
      ∀ fee ∈ s.fees, paidTo db s fee < fee.amount → sub (stroopsToNumber fee.amount)
        (stroopsToNumber (paidTo db s fee)) = stroopsToNumber (fee.amount - paidTo db s fee) := by
  have hloaded : (withBalance db s).numbers.fees =
      s.fees.map fun fee => (updateFeeCategory db s fee).numbers := by
    rw [Student.numbers, withBalance, List.map_map]
    rfl
  rw [hloaded, List.map_inj_left]
  exact forall₂_congr fun fee _ => refreshed_iff

/-- The entries of a recomputed student add up with the rest when they count nothing too often. -/
theorem entries_add_iff {schoolId studentId : String} :
    ((withBalance db s).fees.map (·.totalPaid)).sum +
          uncategorised (updateStudentBalance db schoolId studentId).2 (withBalance db s) +
        (withBalance db s).creditAdjustments = (withBalance db s).totalPaid ↔ overcounted db s = 0 := by
  have hentries : ((withBalance db s).fees.map (·.totalPaid)).sum = entriesTotal db s := by
    rw [withBalance, List.map_map]
    rfl
  have hrows : uncategorised (updateStudentBalance db schoolId studentId).2 (withBalance db s) =
      uncategorised db s := by
    rw [uncategorised, countedRows, updateStudentBalance_payments]
    rfl
  have hadds := entriesTotal_add db s
  rw [hentries, hrows]
  change entriesTotal db s + uncategorised db s + s.creditAdjustments = canonicalTotal db s ↔ _
  omega

end Save

/-- A student with two fee entries. -/
def twoCategories : Student :=
  { paidStudent with
    fees := [⟨"tuition", 600000000, false, 0, none⟩, ⟨"books", 400000000, false, 0, none⟩]
    feePaid := false
    totalPaid := 0
    remainingBalance := none }

/-- One payment of the tuition and a part of the books. -/
def categorisedDb : Db :=
  { paidDb with
    payments := ⟨[{ paidRow with amount := 600000000, feeCategory := some "tuition" },
      { paidRow with txHash := "tx2", amount := 100000000, feeCategory := some "books" }], by decide⟩
    students := ⟨[twoCategories], by decide⟩ }

end StellarEduPay
