import StellarEduPay.Checks
import StellarEduPay.StudentBalance

/-! # Administrative changes to a payment (`controllers/paymentAdminController.js`)

`applyStatusTransition` is shared by the single and the bulk status endpoint and
follows the administrator's transition table.  `reviewSuspiciousPayment` settles
a fraud flag.  Both write the first live row of the transaction and neither
recomputes a balance.
-/
namespace StellarEduPay
open Checks

/-- The `code` of a refused administrative request. -/
inductive AdminErrorCode
  | notFound
  | invalidTransition
  | validationError
  | notFlagged
  deriving DecidableEq, Repr

/-- A refused administrative request. -/
structure AdminError where
  code : AdminErrorCode
  error : String
  deriving DecidableEq, Repr

/-- The checks of `applyStatusTransition`. -/
def checkStatusTransition (db : Db) (schoolId txHash : String) (newStatus : PaymentStatus) :
    Except AdminError Payment := do
  let payment ← orThrow (db.findPaymentByTx schoolId txHash) ⟨.notFound, "Payment not found"⟩
  require (isTransitionAllowed payment.status newStatus true) ⟨.invalidTransition,
    "Cannot transition from " ++ payment.status.name ++ " to " ++ newStatus.name⟩
  pure payment

/-- Apply one administrative status transition.  Returns the updated row and the
status it had. -/
def applyStatusTransition (db : Db) (schoolId txHash : String) (newStatus : PaymentStatus) :
    Except AdminError (Payment × PaymentStatus × Db) := do
  let payment ← checkStatusTransition db schoolId txHash newStatus
  let updated := { payment with status := newStatus }
  pure (updated, payment.status, { db with payments := db.payments.save updated })

/-- The checks of `reviewSuspiciousPayment`. -/
def checkSuspicionReview (db : Db) (schoolId txHash action : String) :
    Except AdminError Payment := do
  require (action == "clear" || action == "confirm_fraud")
    ⟨.validationError, "action must be 'clear' or 'confirm_fraud'"⟩
  let payment ← orThrow (db.findPaymentByTx schoolId txHash) ⟨.notFound, "Payment not found"⟩
  require (payment.isSuspicious || payment.suspicionReviewStatus != .flagged)
    ⟨.notFlagged, "Payment is not flagged as suspicious"⟩
  pure payment

/-- The row after a review. -/
def reviewedPayment (payment : Payment) (action reviewer : String) (note : Option String) :
    Payment :=
  { payment with
    suspicionReviewStatus := if action = "clear" then .cleared else .confirmedFraud
    suspicionReviewedBy := some reviewer
    suspicionReviewNote := note.filter (· ≠ "")
    isSuspicious := if action = "clear" then false else payment.isSuspicious }

/-- Review a flagged payment: clear the flag or confirm the fraud. -/
def reviewSuspiciousPayment (db : Db) (schoolId txHash action reviewer : String)
    (note : Option String) : Except AdminError (Payment × Db) := do
  let payment ← checkSuspicionReview db schoolId txHash action
  let updated := reviewedPayment payment action reviewer note
  pure (updated, { db with payments := db.payments.save updated })

/-! ## What an accepted request did -/

section Spec
variable {db db' : Db} {schoolId txHash : String} {payment updated : Payment}

theorem checkStatusTransition_ok {newStatus : PaymentStatus}
    (h : checkStatusTransition db schoolId txHash newStatus = .ok payment) :
    db.findPaymentByTx schoolId txHash = some payment ∧
      newStatus ∈ adminPaymentStatusTransitions payment.status := by
  simp only [checkStatusTransition, orThrow_bind_ok_iff, require_bind_ok_iff, pure_ok_iff,
    isTransitionAllowed, if_true, decide_eq_true_eq] at h
  obtain ⟨_, hrow, ht, rfl⟩ := h
  exact ⟨hrow, ht⟩

theorem checkSuspicionReview_ok {action : String}
    (h : checkSuspicionReview db schoolId txHash action = .ok payment) :
    db.findPaymentByTx schoolId txHash = some payment := by
  simp only [checkSuspicionReview, orThrow_bind_ok_iff, require_bind_ok_iff, pure_ok_iff] at h
  obtain ⟨_, _, hrow, _, rfl⟩ := h
  exact hrow

/-- A review that does not clear leaves what the row credits; one that clears
makes it count if its status does. -/
theorem credited_reviewedPayment (p : Payment) (action reviewer : String) (note : Option String) :
    (reviewedPayment p action reviewer note).credited =
      if action = "clear" then ({ p with isSuspicious := false } : Payment).credited
      else p.credited := by
  unfold reviewedPayment
  split <;> rfl

end Spec

end StellarEduPay
