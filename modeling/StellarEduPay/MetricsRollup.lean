import Mathlib.Algebra.Group.Pi.Basic
import StellarEduPay.Documents
import StellarEduPay.Grouping

/-! # Payment metrics (`services/metricsRollupService.js`)

Each school has a row of figures for every day and every month in which it was paid.  A
payment that is saved adds to the rows of its day and its month; a scheduled job rebuilds the
days of a window from the payments, and the months from these days.

The figures of a row are a function of the path they are stored under.  Updates name paths the
metrics schema does not have, and Mongoose drops those unless `strict` is off.
-/
namespace StellarEduPay
open Grouping

/-! ## Payments and rows -/

/-- `assetCode` -/
inductive AssetCode
  | xlm
  | usdc
  deriving DecidableEq, Repr

/-- A payment with the fields only the rollups read; the two fiat ones are those of its
`fiatSnapshot`. -/
structure RolledPayment extends Payment where
  assetCode : Option AssetCode
  confirmedAt : Option Nat
  studentDeleted : Bool
  fiatAmount : Option Int
  fiatCurrency : Option String
  deriving DecidableEq, Repr

/-- The path of a figure in a metrics document. -/
inductive MetricsPath
  | paymentCount
  | totalFiatAmount
  | count (status : FeeStatus)
  | assetTotals (asset : AssetCode)
  deriving DecidableEq, Repr

/-- The figures of a row; a path the document does not have counts as zero. -/
abbrev MetricsFigures := MetricsPath → Int

/-- Whether `metricsShape` has the path. -/
def MetricsPath.inSchema : MetricsPath → Bool
  | .count .partPaid | .count .unknown | .assetTotals _ => false
  | _ => true

/-- What an update writes of a path. -/
def MetricsPath.kept (strict : Bool) (path : MetricsPath) : Bool := !strict || path.inSchema

/-- The figures an update writes. -/
def keep (strict : Bool) (figures : MetricsFigures) : MetricsFigures :=
  fun path => if path.kept strict then figures path else 0

/-- A daily or a monthly document. -/
structure MetricsRow (κ : Type) where
  schoolId : String
  period : κ
  figures : MetricsFigures
  fiatCurrency : Option String
  uniqueStudents : Nat
  reconciledAt : Option Nat

/-- The unique index `{ schoolId, period }`. -/
def MetricsRow.key {κ : Type} (row : MetricsRow κ) : String × κ := (row.schoolId, row.period)

abbrev MetricsRows (κ : Type) := Collection (MetricsRow κ) (String × κ) MetricsRow.key

/-- A day is its number since 1970, a month its year and number. -/
structure Metrics where
  daily : MetricsRows Nat
  monthly : MetricsRows (Nat × Nat)

def Metrics.empty : Metrics := ⟨.empty, .empty⟩

/-! ## Days and months -/

def dayMs : Nat := 86400000

/-- `_dayKey`, UTC. -/
def dayKey (date : Nat) : Nat := date / dayMs

/-- `_monthKey` of a day of the Gregorian calendar: years are counted from March, so that the
leap day is the last one. -/
def monthKey (day : Nat) : Nat × Nat :=
  let shifted := day + 719468
  let era := shifted / 146097
  let dayOfEra := shifted % 146097
  let yearOfEra :=
    (dayOfEra - dayOfEra / 1460 + dayOfEra / 36524 - dayOfEra / 146096) / 365
  let dayOfYear := dayOfEra - (365 * yearOfEra + yearOfEra / 4 - yearOfEra / 100)
  let fromMarch := (5 * dayOfYear + 2) / 153
  let month := if fromMarch < 10 then fromMarch + 3 else fromMarch - 9
  let year := yearOfEra + era * 400
  (if month ≤ 2 then year + 1 else year, month)

example : [0, 19782, 19783, 20512, 20513].map monthKey =
    [(1970, 1), (2024, 2), (2024, 3), (2026, 2), (2026, 3)] := by decide

/-! ## Increments -/

/-- What a payment adds to a row. -/
def incrementFigures (p : RolledPayment) : MetricsFigures
  | .paymentCount => 1
  | .totalFiatAmount => p.fiatAmount.getD 0
  | .count status => if p.feeValidationStatus = status then 1 else 0
  | .assetTotals asset => if p.assetCode.getD .xlm = asset then p.amount else 0

def MetricsRow.increment {κ : Type} (strict : Bool) (p : RolledPayment) (row : MetricsRow κ) :
    MetricsRow κ :=
  { row with figures := row.figures + keep strict (incrementFigures p) }

/-- The row an increment inserts. -/
def insertedRow {κ : Type} (strict : Bool) (period : κ) (p : RolledPayment) : MetricsRow κ where
  schoolId := p.schoolId
  period := period
  figures := keep strict (incrementFigures p)
  fiatCurrency := p.fiatCurrency
  uniqueStudents := 0
  reconciledAt := none

/-- `findOneAndUpdate` with `$inc`, `$setOnInsert` and `upsert`. -/
def incrementRow {κ : Type} [DecidableEq κ] (strict : Bool) (period : κ) (rows : MetricsRows κ)
    (p : RolledPayment) : MetricsRows κ :=
  rows.upsert (insertedRow strict period p) (MetricsRow.increment strict p) (fun _ => rfl)

/-- Increment the rows of a payment that was saved. -/
def incrementPaymentMetrics (strict : Bool) (now : Nat) (metrics : Metrics) (p : RolledPayment) :
    Metrics :=
  if p.status ≠ .success then metrics
  else
    let day := dayKey (p.confirmedAt.getD now)
    { daily := incrementRow strict day metrics.daily p
      monthly := incrementRow strict (monthKey day) metrics.monthly p }

/-! ## Reconciliation -/

/-- `[startDate, endDate]` -/
structure MetricsWindow where
  startDate : Nat
  endDate : Nat
  deriving DecidableEq, Repr

/-- From the first to the last millisecond of the window. -/
def MetricsWindow.admits (w : MetricsWindow) (confirmedAt : Nat) : Bool :=
  w.startDate * dayMs ≤ confirmedAt && confirmedAt ≤ w.endDate * dayMs + (dayMs - 1)

def MetricsWindow.HasDay (w : MetricsWindow) (day : Nat) : Prop :=
  w.startDate ≤ day ∧ day ≤ w.endDate

instance (w : MetricsWindow) (day : Nat) : Decidable (w.HasDay day) :=
  inferInstanceAs (Decidable (w.startDate ≤ day ∧ day ≤ w.endDate))

theorem MetricsWindow.admits_iff (w : MetricsWindow) (confirmedAt : Nat) :
    w.admits confirmedAt = true ↔ w.HasDay (dayKey confirmedAt) := by
  rw [admits, Bool.and_eq_true, decide_eq_true_eq, decide_eq_true_eq]
  unfold HasDay dayKey dayMs
  omega

/-- The `$match` stage. -/
def reconciled (schoolId : String) (w : MetricsWindow) (p : RolledPayment) : Bool :=
  p.schoolId == schoolId && p.status == .success && !p.studentDeleted && p.live &&
    p.confirmedAt.any w.admits

/-- The day of a payment that was matched. -/
def RolledPayment.day (p : RolledPayment) : Nat := dayKey (p.confirmedAt.getD 0)

/-- A day or a month, rebuilt. -/
structure MetricsGroup where
  figures : MetricsFigures
  fiatCurrency : Option String
  students : List String

/-- `$arrayToObject` over the amounts of a day: of several under one asset the last stays. -/
def lastAmount (ps : List RolledPayment) (asset : AssetCode) : Int :=
  (((ps.filter fun p => p.assetCode.getD .xlm = asset).getLast?).map fun p => p.amount).getD 0

/-- The `$group` stage, for one day. -/
def dailyRow (ps : List RolledPayment) : MetricsGroup where
  figures
    | .paymentCount => ps.length
    | .totalFiatAmount => (ps.map fun p => p.fiatAmount.getD 0).sum
    | .count status => ps.countP fun p => p.feeValidationStatus = status
    | .assetTotals asset => lastAmount ps asset
  fiatCurrency := ps.head?.bind RolledPayment.fiatCurrency
  students := (ps.map fun p => p.studentId).dedup

def dailyRows (ps : List RolledPayment) : List (Nat × MetricsGroup) :=
  (groupKeys RolledPayment.day ps).map fun day => (day, dailyRow (group RolledPayment.day ps day))

def monthlyRow (days : List (Nat × MetricsGroup)) : MetricsGroup where
  figures := (days.map fun r => r.2.figures).sum
  fiatCurrency := days.head?.bind fun r => r.2.fiatCurrency
  students := (days.flatMap fun r => r.2.students).dedup

/-- `monthMap` -/
def monthlyRows (days : List (Nat × MetricsGroup)) : List ((Nat × Nat) × MetricsGroup) :=
  (groupKeys (fun r => monthKey r.1) days).map fun month =>
    (month, monthlyRow (group (fun r => monthKey r.1) days month))

/-- The `$set` of a rebuilt row. -/
def MetricsRow.rebuild {κ : Type} (strict : Bool) (now : Nat) (g : MetricsGroup)
    (row : MetricsRow κ) : MetricsRow κ :=
  { row with
    figures := fun path => if path.kept strict then g.figures path else row.figures path
    fiatCurrency := g.fiatCurrency
    uniqueStudents := g.students.length
    reconciledAt := some now }

/-- The row a `$set` inserts. -/
def rebuiltRow {κ : Type} (strict : Bool) (now : Nat) (schoolId : String) (r : κ × MetricsGroup) :
    MetricsRow κ where
  schoolId := schoolId
  period := r.1
  figures := keep strict r.2.figures
  fiatCurrency := r.2.fiatCurrency
  uniqueStudents := r.2.students.length
  reconciledAt := some now

/-- The `bulkWrite` of one collection. -/
def rebuildRows {κ : Type} [DecidableEq κ] (strict : Bool) (now : Nat) (schoolId : String)
    (rows : MetricsRows κ) (rebuilt : List (κ × MetricsGroup)) : MetricsRows κ :=
  rows.upsertAll rebuilt (rebuiltRow strict now schoolId) (fun r => MetricsRow.rebuild strict now r.2)
    (fun _ _ => rfl)

/-- Rebuild the rows of a window from the payments. -/
def reconcileMetrics (strict : Bool) (now : Nat) (schoolId : String) (w : MetricsWindow)
    (payments : List RolledPayment) (metrics : Metrics) : Metrics :=
  let days := dailyRows (payments.filter (reconciled schoolId w))
  { daily := rebuildRows strict now schoolId metrics.daily days
    monthly := rebuildRows strict now schoolId metrics.monthly (monthlyRows days) }

end StellarEduPay
