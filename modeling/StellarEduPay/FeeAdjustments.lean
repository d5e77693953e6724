import Mathlib.Data.Rat.Floor
import StellarEduPay.JsString

/-! # Fee adjustment rules (`feeAdjustmentService`)

A school's rules lower or raise the fee of the students they match.  They are evaluated in the order
of their priorities, ties in the order of their names.

The numbers are a parameter, with an order and with operations that round as the machine's do; what
is shown of the order of evaluation holds of them all.  `NaN` is no number.
-/
namespace StellarEduPay

/-- `Math.round`, and `toFixed(2)` read back. -/
class JsRounding (Num : Type) where
  mathRound : Num → Num
  toFixed2 : Num → Num

/-- Exact numbers: `Math.round` takes halves up, `toFixed` away from zero. -/
instance : JsRounding ℚ where
  mathRound x := ⌊x + 1 / 2⌋
  toFixed2 x := if x < 0 then -(⌊-x * 100 + 1 / 2⌋ / 100 : ℚ) else ⌊x * 100 + 1 / 2⌋ / 100

/-! ## The documents -/

inductive FeeRuleType
  | discountPercentage
  | discountFixed
  | penaltyPercentage
  | penaltyFixed
  | waiver
  deriving DecidableEq, Repr

inductive ConflictResolutionPolicy
  | stack
  | firstOnly
  | bestForStudent
  deriving DecidableEq, Repr

/-- The conditions of a rule; the times are in milliseconds. -/
structure RuleConditions (Num : Type) where
  studentClass : List String := []
  academicYear : Option String := none
  paymentBefore : Option Int := none
  paymentAfter : Option Int := none
  minAmount : Option Num := none
  maxAmount : Option Num := none
  deriving DecidableEq, Repr

/-- What the evaluation reads of a rule, of one that is stored or of one that is not. -/
structure FeeRule (Num : Type) where
  name : String
  type : FeeRuleType
  value : Num
  conditions : RuleConditions Num
  priority : Option Num
  conflictResolutionPolicy : Option ConflictResolutionPolicy
  deriving DecidableEq, Repr

/-- `feeAdjustmentRuleModel`. -/
structure FeeRuleDoc (Num : Type) where
  id : Nat
  schoolId : String
  rule : FeeRule Num
  isActive : Bool
  description : Option String
  deriving DecidableEq, Repr

/-- What the fee rules read and write of a student.  `class` is `className` here. -/
structure FeeStudent (Num : Type) where
  id : Nat
  schoolId : String
  studentId : String
  name : String
  className : String
  academicYear : Option String
  feeAmount : Num
  totalPaid : Option Num
  remainingBalance : Option Num
  feePaid : Bool
  deletedAt : Option Int
  deriving DecidableEq, Repr

/-- What a fee is calculated for.  The date is `none` where it is an `Invalid Date`, which is neither
before nor after another. -/
structure PaymentContext (Num : Type) where
  student : FeeStudent Num
  academicYear : Option String
  paymentDate : Option Int
  baseAmount : Num

/-! ## The order of the rules -/

section
variable {Num : Type} [LinearOrder Num] [Zero Num]

/-- The comparison of the sorts, `a.priority - b.priority` and then the names; a priority that is
`null` counts as zero. -/
def sortRules (collate : LocaleCompare) (rules : List (FeeRule Num)) : List (FeeRule Num) :=
  rules.insertionSort (collate.Before (·.priority.getD 0) (·.name))

/-- `fetchSortedRules`, on the rules that are stored. -/
def fetchSortedRules (collate : LocaleCompare) (stored : List (FeeRuleDoc Num))
    (schoolId : String) : List (FeeRule Num) :=
  sortRules collate ((stored.filter fun doc => doc.isActive && doc.schoolId = schoolId).map (·.rule))

/-- **The order is of the rules, not of how they come**, as long as their names are distinct. -/
theorem sortRules_eq_of_perm {collate : LocaleCompare} (hseparates : collate.Separates)
    {rules rules' : List (FeeRule Num)} (hperm : rules.Perm rules')
    (hnames : (rules.map (·.name)).Nodup) : sortRules collate rules = sortRules collate rules' :=
  LocaleCompare.insertionSort_eq_of_perm hseparates hperm
    fun _ ha _ hb => List.inj_on_of_nodup_map hnames ha hb

/-- The extra rule takes the place it would have had among the stored ones. -/
theorem sortRules_extra {collate : LocaleCompare} (hseparates : collate.Separates)
    {rules : List (FeeRule Num)} {extraRule : FeeRule Num}
    (hnames : ((rules ++ [extraRule]).map (·.name)).Nodup) :
    sortRules collate (sortRules collate rules ++ [extraRule]) =
      sortRules collate (rules ++ [extraRule]) := by
  have hperm : (rules ++ [extraRule]).Perm (sortRules collate rules ++ [extraRule]) :=
    (List.perm_insertionSort _ rules).symm.append_right _
  exact (sortRules_eq_of_perm hseparates hperm hnames).symm

end

/-! ## The evaluation -/

section
variable {Num : Type} [LinearOrder Num] [Zero Num] [OfNat Num 100] [Add Num] [Sub Num] [Neg Num]
  [Mul Num] [Div Num]

/-- `_ruleApplies`.  A class without a name is in no list. -/
def ruleApplies (rule : FeeRule Num) (ctx : PaymentContext Num) : Bool :=
  let cond := rule.conditions
  !(!cond.studentClass.isEmpty &&
      !(truthy (some ctx.student.className)).any cond.studentClass.contains) &&
    !(truthy cond.academicYear).any (some · ≠ ctx.academicYear) &&
    !cond.paymentBefore.any (fun before => ctx.paymentDate.any (before < ·)) &&
    !cond.paymentAfter.any (fun after => ctx.paymentDate.any (· < after)) &&
    !(cond.minAmount.filter (· ≠ 0)).any (ctx.baseAmount < ·) &&
    !(cond.maxAmount.filter (· ≠ 0)).any (· < ctx.baseAmount)

def FeeRuleType.isDiscount (type : FeeRuleType) : Bool :=
  type = .discountPercentage || type = .discountFixed

/-- An entry of `adjustmentsApplied`. -/
structure Adjustment (Num : Type) where
  ruleName : String
  type : FeeRuleType
  value : Num
  amountAdjusted : Num
  finalFeeAfterThis : Num
  deriving DecidableEq, Repr

def adjustmentAmount (finalFee : Num) (rule : FeeRule Num) : Num :=
  match rule.type with
  | .discountPercentage => -(finalFee * rule.value / 100)
  | .discountFixed => -rule.value
  | .penaltyPercentage => finalFee * rule.value / 100
  | .penaltyFixed => rule.value
  | .waiver => -finalFee

/-- `Math.abs`. -/
def jsAbs (x : Num) : Num := if x < 0 then -x else x

/-- The loop over the matching rules.  The policy is the one of the first of them. -/
def applyMatching : Option ConflictResolutionPolicy → Num → List (Adjustment Num) →
    List (FeeRule Num) → Num × List (Adjustment Num)
  | _, finalFee, applied, [] => (finalFee, applied)
  | policy, finalFee, applied, rule :: rules =>
    let policy := policy.getD (rule.conflictResolutionPolicy.getD .stack)
    if policy = .firstOnly && !applied.isEmpty then (finalFee, applied)
    else if policy = .bestForStudent && rule.type.isDiscount &&
        applied.any (·.type.isDiscount) then
      applyMatching (some policy) finalFee applied rules
    else
      let amount := adjustmentAmount finalFee rule
      let finalFee := max 0 (finalFee + amount)
      let applied := applied ++ [⟨rule.name, rule.type, rule.value, jsAbs amount, finalFee⟩]
      if rule.type = .waiver then (finalFee, applied)
      else applyMatching (some policy) finalFee applied rules

/-- A credit: what was paid above a new fee. -/
structure Overpayment (Num : Type) where
  studentId : String
  amountPaid : Num
  newFee : Num
  creditAmount : Num
  remainingBalance : Num
  deriving DecidableEq, Repr

structure AdjustedFee (Num : Type) where
  baseFee : Num
  finalFee : Num
  adjustmentsApplied : List (Adjustment Num)
  remainingBalance : Num
  overpayment : Option (Overpayment Num)
  deriving DecidableEq, Repr

/-- `_applyRules`. -/
def applyRules [JsRounding Num] (feeAmount : Num) (ctx : PaymentContext Num)
    (rules : List (FeeRule Num)) : AdjustedFee Num :=
  let (finalFee, adjustmentsApplied) :=
    applyMatching none feeAmount [] (rules.filter (ruleApplies · ctx))
  let resolvedFinalFee := JsRounding.mathRound (finalFee * 100) / 100
  let amountPaid := ctx.student.totalPaid.getD 0
  { baseFee := feeAmount
    finalFee := resolvedFinalFee
    adjustmentsApplied := adjustmentsApplied
    remainingBalance := max 0 (resolvedFinalFee - amountPaid)
    overpayment :=
      if resolvedFinalFee < amountPaid then
        some { studentId := ctx.student.studentId
               amountPaid := amountPaid
               newFee := resolvedFinalFee
               creditAmount := JsRounding.toFixed2 (amountPaid - resolvedFinalFee)
               remainingBalance := 0 }
      else none }

/-- The name of a rule that has none yet. -/
def dryRunPreviewName : String := "_dry_run_preview_"

/-- `simulateWithExtraWithRules`: the fee, and whether the extra rule had a part in it. -/
def simulateWithExtraWithRules [JsRounding Num] (collate : LocaleCompare) (feeAmount : Num)
    (ctx : PaymentContext Num) (extraRule : FeeRule Num) (existingRules : List (FeeRule Num)) :
    AdjustedFee Num × Bool :=
  let result := applyRules feeAmount ctx (sortRules collate (existingRules ++ [extraRule]))
  (result, result.adjustmentsApplied.any
    (·.ruleName = (truthy (some extraRule.name)).getD dryRunPreviewName))

end
end StellarEduPay
