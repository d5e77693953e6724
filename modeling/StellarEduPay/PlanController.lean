import StellarEduPay.Checks
import StellarEduPay.Decimals
import StellarEduPay.PaymentPlans

/-! # The controller of payment plans (`controllers/paymentPlanController.js`)

The controller creates plans with a helper of `utils/money.js` that is not there.  It has an allocation
and a settlement of its own, beside the methods of the model: the instalments in the order of the
array, every hash recorded, and no change of the plan's status.
-/
namespace StellarEduPay
open Checks Decimals Runs

/-! ## Creating a plan -/

structure InstallmentBody where
  amount : ℚ
  dueDate : Nat
  deriving DecidableEq, Repr

/-- A body that `createPaymentPlanSchema` lets through. -/
structure PlanBody where
  installments : List InstallmentBody
  allowPartialPlan : Bool := false
  nonempty : installments ≠ []
  atMost : installments.length ≤ 24
  positive : ∀ inst ∈ installments, 0 < inst.amount
  ascending : (installments.map (·.dueDate)).Pairwise (· < ·)

/-- The fields of a student that plans read. -/
structure PlanStudent where
  feeAmount : ℚ
  remainingBalance : Option ℚ := none
  deriving DecidableEq, Repr

/-- `module.exports` of `utils/money.js`. -/
def moneyExports : List String :=
  ["Decimal", "MONEY_DECIMALS", "toMoney", "decimalFromMongo", "roundMoney", "toMoneyNumber",
    "compareMoney", "moneyEquals", "classifyFeePayment", "classifyFeePaymentStatus"]

/-- `money.toDecimal(value)`: a call of what the module does not export throws. -/
def moneyToDecimal (exports : List String) (value : ℚ) : Except String ℚ :=
  if "toDecimal" ∈ exports then .ok value else .error "money.toDecimal is not a function"

/-- How `createPaymentPlan` ends without a plan: with an answer, or in `next(err)`. -/
inductive PlanRefusal
  | notFound
  | alreadyExists
  | notReconciled (total expected : ℚ)
  | thrown (message : String)
  deriving DecidableEq, Repr

/-- Status, code and error of the answer. -/
def PlanRefusal.answer : PlanRefusal → Option (Nat × String × String)
  | .notFound => some (404, "NOT_FOUND", "Student not found")
  | .alreadyExists =>
    some (409, "PLAN_ALREADY_EXISTS", "An active payment plan already exists for this student")
  | .notReconciled .. =>
    some (400, "VALIDATION_ERROR", "Payment plan total does not reconcile with the student fee")
  | .thrown _ => none

/-- `sum.plus(amount)`, which rounds to the default `precision` of 20 significant digits. -/
def decimalPlus (a b : ℚ) : ℚ := roundSignificant 20 (a + b)

/-- `totalAmount` of `createPaymentPlan`. -/
def planTotal (exports : List String) (installments : List InstallmentBody) : Except String ℚ := do
  let zero ← moneyToDecimal exports 0
  installments.foldlM (fun sum inst => (moneyToDecimal exports inst.amount).map (decimalPlus sum)) zero

/-- `getExpectedPlanTotal`: the first candidate that is there. -/
def getExpectedPlanTotal (exports : List String) (student : PlanStudent) : Except String (Option ℚ) :=
  match [student.remainingBalance, some student.feeAmount].findSome? id with
  | some candidate => (moneyToDecimal exports candidate).map some
  | none => .ok none

/-- The instalments that are stored. -/
def PlanBody.newInstallments (body : PlanBody) : List Installment :=
  body.installments.map fun inst => { amount := inst.amount, dueDate := inst.dueDate }

/-- An exception goes to `next(err)`. -/
def orThrown {α : Type} (x : Except String α) : Except PlanRefusal α :=
  x.mapError .thrown

/-- `createPaymentPlan` after the validation of its body; `existingPlan` is the student's active
plan. -/
def createPaymentPlan (exports : List String) (schoolId studentId : String) (body : PlanBody)
    (student : Option PlanStudent) (existingPlan : Option PaymentPlan) :
    Except PlanRefusal PaymentPlan := do
  let student ← orThrow student .notFound
  require existingPlan.isNone .alreadyExists
  let totalAmount ← orThrown (planTotal exports body.installments)
  let expectedTotal ← orThrown (getExpectedPlanTotal exports student)
  require (body.allowPartialPlan || expectedTotal.all (· = totalAmount))
    (.notReconciled totalAmount (expectedTotal.getD 0))
  .ok { schoolId, studentId, totalAmount, installments := body.newInstallments }

/-- The plan reconciles with what the student owes, or need not. -/
def Reconciles (body : PlanBody) (student : PlanStudent) : Prop :=
  body.allowPartialPlan = true ∨
    (body.installments.map (·.amount)).sum = student.remainingBalance.getD student.feeAmount

/-- **What the creation of a plan has to do.** -/
structure CreatesExactly (body : PlanBody) (student : PlanStudent)
    (result : Except PlanRefusal PaymentPlan) : Prop where
  stored : (∃ plan, result = .ok plan) ↔ Reconciles body student
  asTotalled : ∀ plan, result = .ok plan →
    plan.totalAmount = (plan.installments.map (·.amount)).sum ∧
      ∀ x ∈ plan.installments, x.paid = false ∧ x.paidAmount = 0

/-- The helper is not there, so nothing is stored. -/
theorem createPaymentPlan_throws (schoolId studentId : String) (body : PlanBody)
    (student : PlanStudent) :
    createPaymentPlan moneyExports schoolId studentId body (some student) none =
      .error (.thrown "money.toDecimal is not a function") :=
  rfl

/-- **Plan creation** stores nothing, so it is right exactly about the plans that are to be refused. -/
theorem createsExactly_iff (schoolId studentId : String) (body : PlanBody) (student : PlanStudent) :
    CreatesExactly body student
      (createPaymentPlan moneyExports schoolId studentId body (some student) none) ↔
        ¬ Reconciles body student := by
  have hthrows := createPaymentPlan_throws schoolId studentId body student
  constructor
  · intro h hrec
    obtain ⟨plan, hplan⟩ := h.stored.mpr hrec
    rw [hthrows] at hplan
    cases hplan
  · intro hrec
    refine ⟨iff_of_false ?_ hrec, ?_⟩
    · rintro ⟨plan, hplan⟩
      rw [hthrows] at hplan
      cases hplan
    · intro plan hplan
      rw [hthrows] at hplan
      cases hplan

/-- One instalment of the whole balance. -/
def wholeBalance : PlanBody where
  installments := [⟨100, 5⟩]
  nonempty := by decide
  atMost := by decide
  positive := by decide +kernel
  ascending := by decide

theorem reconciling_plan_not_stored : ¬ ∀ (schoolId studentId : String) (body : PlanBody)
    (student : PlanStudent), CreatesExactly body student
      (createPaymentPlan moneyExports schoolId studentId body (some student) none) := by
  intro h
  have hrec : Reconciles wholeBalance ⟨250, some 100⟩ := Or.inr (by decide +kernel)
  obtain ⟨plan, hplan⟩ := (h "SCH" "STU001" wholeBalance ⟨250, some 100⟩).stored.mpr hrec
  cases hplan

/-! ## Allocation and settlement -/

/-- Hand `remaining` out to the instalments in the order of the array. -/
def handOut (give : Installment → ℚ → Installment × ℚ) :
    List Installment → ℚ → List Installment × ℚ
  | [], remaining => ([], remaining)
  | inst :: rest, remaining =>
    if remaining ≤ 0 then (inst :: rest, remaining)
    else
      let (inst, remaining) := give inst remaining
      let (rest, remaining) := handOut give rest remaining
      (inst :: rest, remaining)

/-- The body of the loop of `allocatePaymentToPlan`. -/
def Installment.allocate (now : Nat) (txHash : Option String) (inst : Installment) (remaining : ℚ) :
    Installment × ℚ :=
  let outstanding := inst.amount - inst.paidAmount
  if outstanding ≤ 0 then (inst, remaining)
  else
    let applied := min remaining outstanding
    let inst := { inst with
      paidAmount := inst.paidAmount + applied
      paymentTxHashes := inst.paymentTxHashes ++ (truthy txHash).toList }
    (inst.markPaid now, remaining - applied)

namespace PaymentPlan

/-- `allocatePaymentToPlan`, on what `findOne({ deletedAt: null, status: 'active' })` finds. -/
def allocatePaymentToPlan (plan : PaymentPlan) (now : Nat) (amount : ℚ) (txHash : Option String) :
    PaymentPlan :=
  { plan with
    installments := (handOut (·.allocate now txHash) plan.installments amount).1, updatedAt := now }

end PaymentPlan

/-- An answer of `updateInstallmentStatus` or `cancelPaymentPlan` other than success. -/
structure PlanAnswer where
  status : Nat
  code : String
  error : String
  deriving DecidableEq, Repr

/-- The fields `updateInstallmentStatus` sets; it takes the amount from the plan, whatever the body
says. -/
def Installment.update (now : Nat) (settlement : Settlement) (inst : Installment) : Installment :=
  { inst with
    paid := settlement.paid
    paidAmount := if settlement.paid then inst.amount else 0
    paidAt := if settlement.paid then some now else inst.paidAt }

namespace PaymentPlan

/-- `updateInstallmentStatus`, on what `findOne({ deletedAt: null })` finds. -/
def updateInstallmentStatus (plan : PaymentPlan) (now index : Nat) (settlement : Settlement) :
    Except PlanAnswer PaymentPlan := do
  require (truthy settlement.reference).isSome
    ⟨400, "VALIDATION_ERROR", "A reference is required for manual settlements"⟩
  require (plan.deletedAt = none) ⟨404, "NOT_FOUND", "Payment plan not found"⟩
  let inst ← orThrow plan.installments[index]?
    ⟨400, "VALIDATION_ERROR", "Invalid installment index"⟩
  .ok { plan with
    installments := plan.installments.set index (inst.update now settlement), updatedAt := now }

/-- `cancelPaymentPlan` -/
def cancelPaymentPlan (plan : PaymentPlan) (now : Nat) : Except PlanAnswer PaymentPlan := do
  require (plan.deletedAt = none) ⟨404, "NOT_FOUND", "Payment plan not found"⟩
  .ok { plan with status := .cancelled, deletedAt := some now, updatedAt := now }

end PaymentPlan

/-- The fields that plans are compared by. -/
def Installment.view (inst : Installment) : ℚ × Bool × List String :=
  (inst.paidAmount, inst.paid, inst.paymentTxHashes)

/-- Same `paidAmount`, `paid` and `paymentTxHashes` of each instalment, same status. -/
def SameState (a b : PaymentPlan) : Prop :=
  a.installments.map (·.view) = b.installments.map (·.view) ∧ a.status = b.status

/-- **What the controller owes the model**: the same allocation and the same settlement, and a plan
that is all paid is out of the way of the next one. -/
structure RefinesModel (plan : PaymentPlan) : Prop where
  allocates : ∀ now amount txHash, 0 < amount →
    SameState (plan.allocatePaymentToPlan now amount txHash) (plan.applyPayment now amount txHash).1
  settles : ∀ now index settlement,
    SameState ((plan.updateInstallmentStatus now index settlement).toOption.getD plan)
      ((plan.settleInstallmentManually now index settlement).toOption.getD plan)
  completed : plan.allPaid = true → plan.status = .completed

/-! ## The collection of plans -/

/-- The requests that write. -/
inductive PlanRequest
  | createPaymentPlan (body : PlanBody) (student : Option PlanStudent)
  | allocatePaymentToPlan (now : Nat) (amount : ℚ) (txHash : Option String)
  | updateInstallmentStatus (now index : Nat) (settlement : Settlement)
  | cancelPaymentPlan (now : Nat)

/-- A request about a student of a school. -/
structure PlanCall where
  schoolId : String
  studentId : String
  request : PlanRequest

/-- `findOne({ schoolId, studentId, deletedAt: null })` -/
def PlanCall.finds (call : PlanCall) (plan : PaymentPlan) : Bool :=
  plan.schoolId = call.schoolId && plan.studentId = call.studentId && plan.deletedAt = none

/-- `findOne({ schoolId, studentId, deletedAt: null, status: 'active' })` -/
def PlanCall.findsActive (call : PlanCall) (plan : PaymentPlan) : Bool :=
  call.finds plan && plan.status = .active

/-- The first plan that is found is changed and saved. -/
def saveFound (found : PaymentPlan → Bool) (change : PaymentPlan → Except PlanAnswer PaymentPlan) :
    List PaymentPlan → List PaymentPlan
  | [] => []
  | plan :: plans =>
    if found plan then ((change plan).toOption.getD plan) :: plans
    else plan :: saveFound found change plans

/-- The plans after a request of the controller, which may refuse it. -/
def servePlanCall (plans : List PaymentPlan) (call : PlanCall) : List PaymentPlan :=
  match call.request with
  | .createPaymentPlan body student =>
    plans ++ (StellarEduPay.createPaymentPlan moneyExports call.schoolId call.studentId body student
      (plans.find? call.findsActive)).toOption.toList
  | .allocatePaymentToPlan now amount txHash =>
    saveFound call.findsActive (fun plan => .ok (plan.allocatePaymentToPlan now amount txHash)) plans
  | .updateInstallmentStatus now index settlement =>
    saveFound call.finds (·.updateInstallmentStatus now index settlement) plans
  | .cancelPaymentPlan now => saveFound call.finds (·.cancelPaymentPlan now) plans

/-- Requests in any order. -/
def controllerStep (plans : List PaymentPlan) (call : PlanCall) : Option (List PaymentPlan) :=
  some (servePlanCall plans call)

section Calls
variable {plans : List PaymentPlan}

/-- Whatever is found of the student, nothing is created. -/
theorem createPaymentPlan_ne_ok (schoolId studentId : String) (body : PlanBody)
    (student : Option PlanStudent) (existingPlan : Option PaymentPlan) :
    (createPaymentPlan moneyExports schoolId studentId body student existingPlan).toOption = none := by
  cases student with
  | none => rfl
  | some student =>
    cases existingPlan with
    | none => rw [createPaymentPlan_throws]; rfl
    | some existing => rfl

/-- A plan is saved in its place. -/
theorem saveFound_length (found : PaymentPlan → Bool)
    (change : PaymentPlan → Except PlanAnswer PaymentPlan) (plans : List PaymentPlan) :
    (saveFound found change plans).length = plans.length := by
  induction plans with
  | nil => rfl
  | cons plan plans ih =>
    unfold saveFound
    split
    · rfl
    · exact congrArg Nat.succ ih

/-- No request of the controller adds a plan. -/
theorem servePlanCall_length (plans : List PaymentPlan) (call : PlanCall) :
    (servePlanCall plans call).length = plans.length := by
  unfold servePlanCall
  cases call.request with
  | createPaymentPlan body student =>
    simp only [createPaymentPlan_ne_ok]
    exact congrArg List.length (List.append_nil plans)
  | allocatePaymentToPlan now amount txHash => exact saveFound_length _ _ plans
  | updateInstallmentStatus now index settlement => exact saveFound_length _ _ plans
  | cancelPaymentPlan now => exact saveFound_length _ _ plans

/-- From a collection without plans there are none in any run. -/
theorem no_plan_stored (h : Reach controllerStep Free [] plans) : plans = [] := by
  have hnil : [] = plans := h.invariant rfl fun {before call _} hinv _ hs => by
    obtain rfl := Option.some.inj hs
    have hlength : (servePlanCall before call).length = 0 := by
      rw [servePlanCall_length, ← hinv, List.length_nil]
    exact (List.length_eq_zero_iff.mp hlength).symm
  exact hnil.symm

end Calls

/-- A plan of the whole balance is asked for, a payment comes in, and the instalment is settled. -/
def wholeBalanceCalls : List PlanCall :=
  [⟨"SCH", "STU001", .createPaymentPlan wholeBalance (some ⟨250, some 100⟩)⟩,
    ⟨"SCH", "STU001", .allocatePaymentToPlan 7 100 (some "tx1")⟩,
    ⟨"SCH", "STU001", .updateInstallmentStatus 8 0 ⟨true, none, some "cash"⟩⟩]

end StellarEduPay
