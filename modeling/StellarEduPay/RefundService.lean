import StellarEduPay.Checks
import StellarEduPay.StudentBalance

/-! # The refund lifecycle (`services/refundService.js`)

Five operations move two documents: the refund, through its own transition
table, and the payment row it was initiated on.  Each is a sequence of checks
followed by one database transaction.  Two things about it are easily missed:

* `initiateRefund` takes the first `SUCCESS` row of the transaction, while
  `rejectRefund` and `completeRefund` look the row up again by transaction hash
  alone, in whatever status it is;
* `updateRefundStatus` writes the refund only.

A lock that is not free is an argument, as is the identifier the database gives
to a new refund.  A refused call returns an error and no store, so it cannot
have written anything.
-/
namespace StellarEduPay
open Checks

/-- The `code` of a thrown error.  `duplicateKey` is MongoDB's `11000` and
`schemaValidation` Mongoose's own check of a document. -/
inductive RefundErrorCode
  | unknownPrincipal
  | refundLockContended
  | paymentNotFound
  | invalidAmount
  | amountExceedsRefundable
  | refundAlreadyExists
  | notFound
  | invalidState
  | selfApprovalNotAllowed
  | validationError
  | invalidStatus
  | invalidStatusTransition
  | duplicateKey
  | schemaValidation
  deriving DecidableEq, Repr

/-- A thrown error. -/
structure RefundError where
  code : RefundErrorCode
  message : String
  deriving DecidableEq, Repr

/-- `VALID_REFUND_STATUSES`, in the order of the transition table's keys. -/
def validRefundStatuses : List RefundStatus :=
  [.approvalPending, .pending, .submitted, .confirmed, .rejected, .failed]

/-- The status a caller spelled, if there is one. -/
def RefundStatus.ofName (s : String) : Option RefundStatus :=
  validRefundStatuses.find? fun st => st.name == s

/-- A principal the service accepts: present, with a user id that is not empty
and not `'unknown'`. -/
def knownPrincipal (principal : Option Principal) : Option Principal :=
  principal.filter fun p => p.userId ≠ "" && p.userId ≠ "unknown"

/-- The number of UTF-16 code units, which is what `maxlength` counts. -/
def jsLength (s : String) : Nat :=
  (s.toList.map fun c => if 0x10000 ≤ c.val then 2 else 1).sum

/-- `Refund.findOne({ _id, schoolId })`. -/
def Db.findRefund (db : Db) (refundId schoolId : String) : Option Refund :=
  db.refunds.findOne fun r => r.id == refundId && r.schoolId == schoolId

/-- `Payment.findOne({ schoolId, txHash, status: 'SUCCESS' })`. -/
def Db.findSuccessByTx (db : Db) (schoolId txHash : String) : Option Payment :=
  db.findPayment fun p => p.schoolId == schoolId && p.txHash == txHash && p.status == .success

/-- Sum of the confirmed refunds of a payment. -/
def alreadyRefunded (db : Db) (schoolId originalTxHash : String) : Int :=
  ((db.refunds.docs.filter fun r => r.schoolId == schoolId && r.originalTxHash == originalTxHash &&
    r.status == .confirmed).map Refund.amount).sum

/-- An active refund of a payment, if there is one. -/
def Db.findActiveRefund (db : Db) (schoolId originalTxHash : String) : Option Refund :=
  db.refunds.findOne fun r => r.schoolId == schoolId && r.originalTxHash == originalTxHash &&
    decide (r.status ∈ RefundStatus.active)

/-! ## initiateRefund -/

/-- The arguments of `initiateRefund`. -/
structure InitiateArgs where
  schoolId : String
  originalTxHash : String
  studentId : String
  amount : Int
  reason : String
  principal : Option Principal
  deriving DecidableEq, Repr

/-- The refund document `initiateRefund` creates.  The schema trims the reason. -/
def newRefund (id : String) (args : InitiateArgs) (principal : Principal) : Refund where
  id := id
  schoolId := args.schoolId
  originalTxHash := args.originalTxHash
  studentId := args.studentId
  refundTxHash := none
  amount := args.amount
  status := .approvalPending
  reason := jsTrim args.reason
  initiatedBy := principal
  approvedBy := none
  rejectedBy := none
  rejectionReason := none
  failureReason := none

/-- The schema's required paths and length limits for a new refund. -/
def Refund.schemaValid (r : Refund) : Bool :=
  r.schoolId ≠ "" && r.originalTxHash ≠ "" && r.studentId ≠ "" &&
  r.reason ≠ "" && jsLength r.reason ≤ 1000 &&
  r.initiatedBy.userId ≠ "" && r.initiatedBy.displayName ≠ ""

/-- The checks of `initiateRefund`, up to the transaction. -/
def checkInitiateRefund (db : Db) (lockFree : Bool) (args : InitiateArgs) :
    Except RefundError (Principal × Payment) := do
  let principal ← orThrow (knownPrincipal args.principal)
    ⟨.unknownPrincipal, "Cannot initiate refund: caller identity unknown"⟩
  require lockFree ⟨.refundLockContended,
    "A refund for this payment is already being processed. Please try again shortly."⟩
  let payment ← orThrow (db.findSuccessByTx args.schoolId args.originalTxHash)
    ⟨.paymentNotFound, "Original payment not found or not in SUCCESS status"⟩
  require (decide (0 < args.amount)) ⟨.invalidAmount, "Refund amount must be a positive number"⟩
  let already := alreadyRefunded db args.schoolId args.originalTxHash
  let refundable := payment.amount - already
  require (decide (args.amount ≤ refundable)) ⟨.amountExceedsRefundable,
    "Refund amount " ++ jsNumber args.amount ++ " exceeds the refundable amount " ++
    jsNumber refundable ++ " (original: " ++ jsNumber payment.amount ++ ", already refunded: " ++
    jsNumber already ++ ")"⟩
  forbid (db.findActiveRefund args.schoolId args.originalTxHash) fun existing =>
    ⟨.refundAlreadyExists, "A refund for this payment already exists (status: " ++
      existing.status.name ++ ", id: " ++ existing.id ++ ")"⟩
  pure (principal, payment)

/-- Initiate a refund: a new refund awaiting approval, and the row it is for moved
to `REFUND_PENDING`. -/
def initiateRefund (db : Db) (lockFree : Bool) (newId : String) (args : InitiateArgs) :
    Except RefundError (Refund × Db) := do
  let (principal, payment) ← checkInitiateRefund db lockFree args
  let refund := newRefund newId args principal
  require refund.schemaValid ⟨.schemaValidation, "Refund validation failed"⟩
  let refunds ← orThrow (db.refunds.create refund) ⟨.duplicateKey, "E11000 duplicate key error"⟩
  pure (refund, { db with
    refunds := refunds
    payments := db.payments.save { payment with status := .refundPending }
    outbox := db.outbox ++ [.refundInitiated refund.id args.schoolId args.originalTxHash
      args.studentId args.amount args.reason principal] })

/-! ## approveRefund -/

/-- The refund after its approval. -/
def approvedRefund (refund : Refund) (principal : Principal) : Refund :=
  { refund with status := .pending, approvedBy := some principal }

/-- Approve a refund that awaits approval.  No lock is taken. -/
def approveRefund (db : Db) (refundId : String) (principal : Option Principal)
    (schoolId : String) : Except RefundError (Refund × Db) := do
  let principal ← orThrow (knownPrincipal principal)
    ⟨.unknownPrincipal, "Cannot approve refund: caller identity unknown"⟩
  let refund ← orThrow (db.findRefund refundId schoolId) ⟨.notFound, "Refund not found"⟩
  require (refund.status == .approvalPending)
    ⟨.invalidState, "Cannot approve refund in " ++ refund.status.name ++ " status"⟩
  require (refund.initiatedBy.userId != principal.userId) ⟨.selfApprovalNotAllowed,
    "Approval must be by a different operator than the one who initiated the refund"⟩
  let updated := approvedRefund refund principal
  let refunds ← orThrow (db.refunds.update updated) ⟨.duplicateKey, "E11000 duplicate key error"⟩
  pure (updated, { db with
    refunds := refunds
    outbox := db.outbox ++ [.refundApproved refund.id refund.schoolId refund.originalTxHash
      refund.initiatedBy principal refund.amount] })

/-! ## rejectRefund -/

/-- The checks of `rejectRefund`, up to the transaction.  The status is read before
the lock is taken. -/
def checkRejectRefund (db : Db) (lockFree : Bool) (refundId : String)
    (principal : Option Principal) (rejectReason schoolId : String) :
    Except RefundError (Principal × Refund × Payment) := do
  let principal ← orThrow (knownPrincipal principal)
    ⟨.unknownPrincipal, "Cannot reject refund: caller identity unknown"⟩
  require (jsTrim rejectReason != "") ⟨.validationError, "A rejection reason is required"⟩
  let refund ← orThrow (db.findRefund refundId schoolId) ⟨.notFound, "Refund not found"⟩
  require (refund.status == .approvalPending) ⟨.invalidState,
    "Cannot reject a refund that is not in approval_pending status (current: " ++
    refund.status.name ++ ")"⟩
  require (refund.initiatedBy.userId != principal.userId) ⟨.selfApprovalNotAllowed,
    "Rejection must be by a different operator than the one who initiated the refund"⟩
  require lockFree ⟨.refundLockContended,
    "A refund operation for this payment is already in progress"⟩
  let payment ← orThrow (db.findPaymentByTx refund.schoolId refund.originalTxHash)
    ⟨.paymentNotFound, "Original payment not found — cannot restore status"⟩
  pure (principal, refund, payment)

/-- The refund after its rejection. -/
def rejectedRefund (refund : Refund) (principal : Principal) (rejectReason : String) : Refund :=
  { refund with
    status := .rejected, rejectedBy := some principal, rejectionReason := some rejectReason }

/-- Reject a refund that awaits approval and restore the payment to `SUCCESS`. -/
def rejectRefund (db : Db) (lockFree : Bool) (refundId : String) (principal : Option Principal)
    (rejectReason schoolId : String) : Except RefundError (Refund × Db) := do
  let (principal, refund, payment) ←
    checkRejectRefund db lockFree refundId principal rejectReason schoolId
  let updated := rejectedRefund refund principal rejectReason
  require (decide (jsLength rejectReason ≤ 1000))
    ⟨.schemaValidation, "Refund validation failed"⟩
  let refunds ← orThrow (db.refunds.update updated) ⟨.duplicateKey, "E11000 duplicate key error"⟩
  pure (updated, { db with
    refunds := refunds
    payments := db.payments.save { payment with status := .success }
    outbox := db.outbox ++ [.refundRejected refund.id refund.schoolId refund.originalTxHash
      refund.studentId refund.amount principal rejectReason] })

/-! ## completeRefund -/

/-- The checks of `completeRefund`, up to the transaction. -/
def checkCompleteRefund (db : Db) (lockFree : Bool) (refundId refundTxHash : String)
    (principal : Option Principal) (schoolId : String) :
    Except RefundError (Principal × Refund × Payment) := do
  let principal ← orThrow (knownPrincipal principal)
    ⟨.unknownPrincipal, "Cannot complete refund: caller identity unknown"⟩
  require (jsTrim refundTxHash != "")
    ⟨.validationError, "refundTxHash is required to complete a refund"⟩
  let refund ← orThrow (db.findRefund refundId schoolId) ⟨.notFound, "Refund not found"⟩
  require (refund.status == .pending) ⟨.invalidState, "Cannot complete refund in " ++
    refund.status.name ++ " status — must be in 'pending' status"⟩
  require lockFree ⟨.refundLockContended,
    "A refund operation for this payment is already in progress"⟩
  let payment ← orThrow (db.findPaymentByTx refund.schoolId refund.originalTxHash)
    ⟨.paymentNotFound, "Original payment not found"⟩
  pure (principal, refund, payment)

/-- The refund after its completion. -/
def confirmedRefund (refund : Refund) (refundTxHash : String) : Refund :=
  { refund with status := .confirmed, refundTxHash := some refundTxHash }

/-- What the transaction of `completeRefund` leaves, before the balance is
recomputed. -/
def commitCompleteRefund (db : Db) (lockFree : Bool) (refundId refundTxHash : String)
    (principal : Option Principal) (schoolId : String) : Except RefundError (Refund × Db) := do
  let (principal, refund, payment) ←
    checkCompleteRefund db lockFree refundId refundTxHash principal schoolId
  let updated := confirmedRefund refund refundTxHash
  let refunds ← orThrow (db.refunds.update updated) ⟨.duplicateKey, "E11000 duplicate key error"⟩
  pure (updated, { db with
    refunds := refunds
    payments := db.payments.save { payment with status := .refunded }
    outbox := db.outbox ++ [.refundCompleted refund.id refund.schoolId refund.originalTxHash
      refund.studentId refund.amount .pending .confirmed refundTxHash principal] })

/-- Confirm a refund by its on-chain transaction, mark the payment `REFUNDED` and
recompute the balance of the student the refund names. -/
def completeRefund (db : Db) (lockFree : Bool) (refundId refundTxHash : String)
    (principal : Option Principal) (schoolId : String) : Except RefundError (Refund × Db) := do
  let (updated, db) ← commitCompleteRefund db lockFree refundId refundTxHash principal schoolId
  pure (updated, (updateStudentBalance db updated.schoolId updated.studentId).2)

/-! ## updateRefundStatus -/

/-- The lookup of `updateRefundStatus`, not scoped to a school when none is given. -/
def Db.findRefundScoped (db : Db) (refundId : String) (schoolId : Option String) :
    Option Refund :=
  match schoolId.filter (· ≠ "") with
  | some schoolId => db.findRefund refundId schoolId
  | none => db.refunds.findOne fun r => r.id == refundId

/-- The message of a refused transition. -/
def transitionMessage (previousStatus newStatus : RefundStatus) : String :=
  "Cannot transition refund from \"" ++ previousStatus.name ++ "\" to \"" ++ newStatus.name ++
  "\". " ++
  if previousStatus.transitions.isEmpty then
    "\"" ++ previousStatus.name ++ "\" is a terminal state."
  else
    "Allowed transitions: " ++
      String.intercalate ", " (previousStatus.transitions.map RefundStatus.name) ++ "."

/-- The refund document `updateRefundStatus` saves. -/
def statusUpdate (refund : Refund) (newStatus : RefundStatus) (txHash failureReason : Option String) :
    Refund :=
  let txHash := txHash.filter (· ≠ "")
  let failureReason := failureReason.filter (· ≠ "")
  let refund := { refund with status := newStatus }
  if newStatus = .confirmed ∧ txHash.isSome then { refund with refundTxHash := txHash }
  else if newStatus = .failed ∧ failureReason.isSome then
    { refund with failureReason := failureReason }
  else refund

/-- The checks of `updateRefundStatus`, up to the transaction. -/
def checkUpdateRefundStatus (db : Db) (lockFree : Bool) (refundId newStatus : String)
    (schoolId : Option String) : Except RefundError (Refund × RefundStatus) := do
  let newStatus ← orThrow (RefundStatus.ofName newStatus) ⟨.invalidStatus,
    "Invalid refund status \"" ++ newStatus ++ "\". Must be one of: " ++
    String.intercalate ", " (validRefundStatuses.map RefundStatus.name)⟩
  let _ ← orThrow (db.findRefundScoped refundId schoolId) ⟨.notFound, "Refund not found"⟩
  require lockFree ⟨.refundLockContended,
    "A refund operation for this payment is already in progress. Please try again shortly."⟩
  let lockedRefund ← orThrow (db.findRefundScoped refundId schoolId)
    ⟨.notFound, "Refund not found"⟩
  require (decide (newStatus ∈ lockedRefund.status.transitions))
    ⟨.invalidStatusTransition, transitionMessage lockedRefund.status newStatus⟩
  pure (lockedRefund, newStatus)

/-- Generic transition of the refund's status machine.  The payment is not touched. -/
def updateRefundStatus (db : Db) (lockFree : Bool) (refundId newStatus : String)
    (txHash failureReason schoolId : Option String) : Except RefundError (Refund × Db) := do
  let (lockedRefund, newStatus) ← checkUpdateRefundStatus db lockFree refundId newStatus schoolId
  let updated := statusUpdate lockedRefund newStatus txHash failureReason
  let refunds ← orThrow (db.refunds.update updated) ⟨.duplicateKey, "E11000 duplicate key error"⟩
  pure (updated, { db with
    refunds := refunds
    outbox := db.outbox ++ [.refundStatusChanged updated.id updated.schoolId
      updated.originalTxHash lockedRefund.status newStatus updated.refundTxHash failureReason] })

/-! ## Calls -/

/-- A call of one of the five operations, with what its environment decided. -/
inductive RefundCall
  | initiateRefund (lockFree : Bool) (newId : String) (args : InitiateArgs)
  | approveRefund (refundId : String) (principal : Option Principal) (schoolId : String)
  | rejectRefund (lockFree : Bool) (refundId : String) (principal : Option Principal)
      (rejectReason schoolId : String)
  | completeRefund (lockFree : Bool) (refundId refundTxHash : String)
      (principal : Option Principal) (schoolId : String)
  | updateRefundStatus (lockFree : Bool) (refundId newStatus : String)
      (txHash failureReason schoolId : Option String)

/-- Make the call. -/
def RefundCall.run (db : Db) : RefundCall → Except RefundError (Refund × Db)
  | .initiateRefund lockFree newId args => StellarEduPay.initiateRefund db lockFree newId args
  | .approveRefund refundId principal schoolId =>
      StellarEduPay.approveRefund db refundId principal schoolId
  | .rejectRefund lockFree refundId principal rejectReason schoolId =>
      StellarEduPay.rejectRefund db lockFree refundId principal rejectReason schoolId
  | .completeRefund lockFree refundId refundTxHash principal schoolId =>
      StellarEduPay.completeRefund db lockFree refundId refundTxHash principal schoolId
  | .updateRefundStatus lockFree refundId newStatus txHash failureReason schoolId =>
      StellarEduPay.updateRefundStatus db lockFree refundId newStatus txHash failureReason schoolId

/-- The store after a request, which a refused one leaves unchanged. -/
def Db.after {ε α : Type} (db : Db) : Except ε (α × Db) → Db
  | .error _ => db
  | .ok (_, db') => db'

/-- The store after the call. -/
def RefundCall.apply (db : Db) (call : RefundCall) : Db := db.after (call.run db)

/-! ## What an accepted call checked and wrote -/

section Spec
variable {db db' : Db} {lockFree : Bool} {principal : Option Principal} {p : Principal}
  {refund updated : Refund} {row : Payment}

theorem checkInitiateRefund_ok_iff {args : InitiateArgs} :
    checkInitiateRefund db lockFree args = .ok (p, row) ↔
      knownPrincipal args.principal = some p ∧ lockFree = true ∧
      db.findSuccessByTx args.schoolId args.originalTxHash = some row ∧ 0 < args.amount ∧
      args.amount ≤ row.amount - alreadyRefunded db args.schoolId args.originalTxHash ∧
      db.findActiveRefund args.schoolId args.originalTxHash = none := by
  simp only [checkInitiateRefund, orThrow_bind_ok_iff, require_bind_ok_iff, forbid_bind_ok_iff,
    pure_ok_iff, decide_eq_true_eq, Prod.mk.injEq]
  constructor
  · rintro ⟨_, hp, hl, _, hrow, ha, hr, hn, rfl, rfl⟩
    exact ⟨hp, hl, hrow, ha, hr, hn⟩
  · rintro ⟨hp, hl, hrow, ha, hr, hn⟩
    exact ⟨p, hp, hl, row, hrow, ha, hr, hn, rfl, rfl⟩

theorem initiateRefund_ok_iff {newId : String} {args : InitiateArgs} :
    initiateRefund db lockFree newId args = .ok (refund, db') ↔
      ∃ p row refunds, checkInitiateRefund db lockFree args = .ok (p, row) ∧
        (newRefund newId args p).schemaValid = true ∧
        db.refunds.create (newRefund newId args p) = some refunds ∧
        refund = newRefund newId args p ∧
        db' = { db with
          refunds := refunds
          payments := db.payments.save { row with status := .refundPending }
          outbox := db.outbox ++ [.refundInitiated newId args.schoolId args.originalTxHash
            args.studentId args.amount args.reason p] } := by
  simp only [initiateRefund, bind_ok_iff, orThrow_ok_iff, require_ok_iff, pure_ok_iff,
    Prod.mk.injEq, Prod.exists]
  constructor
  · rintro ⟨p, row, hc, _, hv, refunds, hr, rfl, rfl⟩
    exact ⟨p, row, refunds, hc, hv, hr, rfl, rfl⟩
  · rintro ⟨p, row, refunds, hc, hv, hr, rfl, rfl⟩
    exact ⟨p, row, hc, (), hv, refunds, hr, rfl, rfl⟩

theorem approveRefund_ok {refundId schoolId : String}
    (h : approveRefund db refundId principal schoolId = .ok (updated, db')) :
    ∃ p refund, knownPrincipal principal = some p ∧
      db.findRefund refundId schoolId = some refund ∧ refund.status = .approvalPending ∧
      refund.initiatedBy.userId ≠ p.userId ∧ updated = approvedRefund refund p ∧
      db.refunds.update updated = some db'.refunds ∧
      db'.payments = db.payments ∧ db'.students = db.students := by
  simp only [approveRefund, orThrow_bind_ok_iff, require_bind_ok_iff, pure_ok_iff, Prod.mk.injEq,
    beq_iff_eq, bne_iff_ne] at h
  obtain ⟨p, hp, refund, hr, hst, hne, refunds, hu, rfl, rfl⟩ := h
  exact ⟨p, refund, hp, hr, hst, hne, rfl, hu, rfl, rfl⟩

theorem checkRejectRefund_ok {refundId rejectReason schoolId : String}
    (h : checkRejectRefund db lockFree refundId principal rejectReason schoolId =
      .ok (p, refund, row)) :
    db.findRefund refundId schoolId = some refund ∧ refund.status = .approvalPending ∧
      refund.initiatedBy.userId ≠ p.userId ∧
      db.findPaymentByTx refund.schoolId refund.originalTxHash = some row := by
  simp only [checkRejectRefund, orThrow_bind_ok_iff, require_bind_ok_iff, pure_ok_iff,
    Prod.mk.injEq, beq_iff_eq, bne_iff_ne] at h
  obtain ⟨_, _, _, _, hr, hst, hne, _, _, hrow, rfl, rfl, rfl⟩ := h
  exact ⟨hr, hst, hne, hrow⟩

theorem rejectRefund_ok_iff {refundId rejectReason schoolId : String} :
    rejectRefund db lockFree refundId principal rejectReason schoolId = .ok (updated, db') ↔
      ∃ p refund row refunds,
        checkRejectRefund db lockFree refundId principal rejectReason schoolId =
          .ok (p, refund, row) ∧
        jsLength rejectReason ≤ 1000 ∧
        db.refunds.update (rejectedRefund refund p rejectReason) = some refunds ∧
        updated = rejectedRefund refund p rejectReason ∧
        db' = { db with
          refunds := refunds
          payments := db.payments.save { row with status := .success }
          outbox := db.outbox ++ [.refundRejected refund.id refund.schoolId refund.originalTxHash
            refund.studentId refund.amount p rejectReason] } := by
  simp only [rejectRefund, bind_ok_iff, orThrow_ok_iff, require_ok_iff, pure_ok_iff,
    Prod.mk.injEq, Prod.exists, decide_eq_true_eq]
  constructor
  · rintro ⟨p, refund, row, hc, _, hlen, refunds, hu, rfl, rfl⟩
    exact ⟨p, refund, row, refunds, hc, hlen, hu, rfl, rfl⟩
  · rintro ⟨p, refund, row, refunds, hc, hlen, hu, rfl, rfl⟩
    exact ⟨p, refund, row, hc, (), hlen, refunds, hu, rfl, rfl⟩

theorem checkCompleteRefund_ok {refundId refundTxHash schoolId : String}
    (h : checkCompleteRefund db lockFree refundId refundTxHash principal schoolId =
      .ok (p, refund, row)) :
    db.findRefund refundId schoolId = some refund ∧ refund.status = .pending ∧
      db.findPaymentByTx refund.schoolId refund.originalTxHash = some row := by
  simp only [checkCompleteRefund, orThrow_bind_ok_iff, require_bind_ok_iff, pure_ok_iff,
    Prod.mk.injEq, beq_iff_eq] at h
  obtain ⟨_, _, _, _, hr, hst, _, _, hrow, rfl, rfl, rfl⟩ := h
  exact ⟨hr, hst, hrow⟩

theorem completeRefund_ok_iff {refundId refundTxHash schoolId : String} :
    completeRefund db lockFree refundId refundTxHash principal schoolId = .ok (updated, db') ↔
      ∃ p refund row refunds,
        checkCompleteRefund db lockFree refundId refundTxHash principal schoolId =
          .ok (p, refund, row) ∧
        db.refunds.update (confirmedRefund refund refundTxHash) = some refunds ∧
        updated = confirmedRefund refund refundTxHash ∧
        db' = (updateStudentBalance { db with
          refunds := refunds
          payments := db.payments.save { row with status := .refunded }
          outbox := db.outbox ++ [.refundCompleted refund.id refund.schoolId refund.originalTxHash
            refund.studentId refund.amount .pending .confirmed refundTxHash p] }
          refund.schoolId refund.studentId).2 := by
  simp only [completeRefund, commitCompleteRefund, bind_ok_iff, orThrow_ok_iff, pure_ok_iff,
    Prod.mk.injEq, Prod.exists]
  constructor
  · rintro ⟨_, _, ⟨p, refund, row, hc, refunds, hu, rfl, rfl⟩, rfl, rfl⟩
    exact ⟨p, refund, row, refunds, hc, hu, rfl, rfl⟩
  · rintro ⟨p, refund, row, refunds, hc, hu, rfl, rfl⟩
    exact ⟨_, _, ⟨p, refund, row, hc, refunds, hu, rfl, rfl⟩, rfl, rfl⟩

theorem findRefundScoped_mem {refundId : String} {schoolId : Option String}
    (h : db.findRefundScoped refundId schoolId = some refund) :
    refund ∈ db.refunds.docs ∧ refund.id = refundId := by
  unfold Db.findRefundScoped at h
  split at h
  · refine ⟨db.refunds.mem_of_findOne h, ?_⟩
    have := db.refunds.findOne_sat h
    simp only [Bool.and_eq_true, beq_iff_eq] at this
    exact this.1
  · exact ⟨db.refunds.mem_of_findOne h, by simpa using db.refunds.findOne_sat h⟩

theorem checkUpdateRefundStatus_ok {refundId newStatus : String} {schoolId : Option String}
    {st : RefundStatus}
    (h : checkUpdateRefundStatus db lockFree refundId newStatus schoolId = .ok (refund, st)) :
    RefundStatus.ofName newStatus = some st ∧
      db.findRefundScoped refundId schoolId = some refund ∧ st ∈ refund.status.transitions := by
  simp only [checkUpdateRefundStatus, orThrow_bind_ok_iff, require_bind_ok_iff, pure_ok_iff,
    Prod.mk.injEq, decide_eq_true_eq] at h
  obtain ⟨_, hst, _, _, _, _, hr, ht, rfl, rfl⟩ := h
  exact ⟨hst, hr, ht⟩

theorem updateRefundStatus_ok {refundId newStatus : String}
    {txHash failureReason schoolId : Option String}
    (h : updateRefundStatus db lockFree refundId newStatus txHash failureReason schoolId =
      .ok (updated, db')) :
    ∃ refund st,
      checkUpdateRefundStatus db lockFree refundId newStatus schoolId = .ok (refund, st) ∧
      updated = statusUpdate refund st txHash failureReason ∧
      db.refunds.update updated = some db'.refunds ∧
      db'.payments = db.payments ∧ db'.students = db.students := by
  simp only [updateRefundStatus, bind_ok_iff, orThrow_ok_iff, pure_ok_iff, Prod.mk.injEq,
    Prod.exists] at h
  obtain ⟨refund, st, hc, refunds, hu, rfl, rfl⟩ := h
  exact ⟨refund, st, hc, rfl, hu, rfl, rfl⟩

theorem updateRefundStatus_accepts {refundId newStatus : String}
    {txHash failureReason schoolId : Option String} {st : RefundStatus}
    (hc : checkUpdateRefundStatus db lockFree refundId newStatus schoolId = .ok (refund, st))
    (hclash : ¬ db.refunds.Clashes (statusUpdate refund st txHash failureReason)) :
    ∃ r, updateRefundStatus db lockFree refundId newStatus txHash failureReason schoolId = .ok r := by
  obtain ⟨refunds, hu⟩ := db.refunds.update_isSome hclash
  simp only [updateRefundStatus, bind_ok_iff, orThrow_ok_iff, pure_ok_iff, Prod.exists]
  exact ⟨_, _, refund, st, hc, refunds, hu, rfl⟩

section StatusUpdate
variable (r : Refund) (st : RefundStatus) (t f : Option String)

/-- Besides the status, at most the transaction hash and the failure reason change,
the hash only when the refund is confirmed. -/
theorem statusUpdate_eq : ∃ hash reason,
    statusUpdate r st t f = { r with
      status := st, refundTxHash := hash, failureReason := reason } ∧
    (st ≠ .confirmed → hash = r.refundTxHash) := by
  unfold statusUpdate
  dsimp only
  split
  · rename_i hconf
    exact ⟨_, r.failureReason, rfl, fun hne => absurd hconf.1 hne⟩
  · split
    · exact ⟨r.refundTxHash, _, rfl, fun _ => rfl⟩
    · exact ⟨r.refundTxHash, r.failureReason, rfl, fun _ => rfl⟩

@[simp] theorem statusUpdate_status : (statusUpdate r st t f).status = st := by
  obtain ⟨_, _, heq, -⟩ := statusUpdate_eq r st t f
  rw [heq]

theorem statusUpdate_refundTxHash_of_ne (h : st ≠ .confirmed) :
    (statusUpdate r st t f).refundTxHash = r.refundTxHash := by
  obtain ⟨_, _, heq, hhash⟩ := statusUpdate_eq r st t f
  rw [heq]
  exact hhash h

end StatusUpdate

/-- A save that takes no index entry the refund does not have is never a duplicate. -/
theorem update_isSome_of_subset (hmem : refund ∈ db.refunds.docs) (hid : updated.id = refund.id)
    (hentries : ∀ i ∈ updated.indexEntries, i ∈ refund.indexEntries) :
    ∃ refunds, db.refunds.update updated = some refunds := by
  refine db.refunds.update_isSome ?_
  rintro ⟨e, he, hne, i, hie, hiu⟩
  exact hne ((db.refunds.unique e he refund hmem i hie (hentries i hiu)).trans hid.symm)

/-- Leaving the active statuses only frees an index entry, so a rejection that
passes its checks goes through. -/
theorem rejectRefund_accepts {refundId rejectReason schoolId : String}
    (hc : checkRejectRefund db lockFree refundId principal rejectReason schoolId =
      .ok (p, refund, row)) (hlen : jsLength rejectReason ≤ 1000) :
    ∃ r, rejectRefund db lockFree refundId principal rejectReason schoolId = .ok r := by
  have hsub : ∀ i ∈ (rejectedRefund refund p rejectReason).indexEntries,
      i ∈ refund.indexEntries := by
    simp [rejectedRefund, Refund.indexEntries, RefundStatus.active]
  have hid : (rejectedRefund refund p rejectReason).id = refund.id := rfl
  obtain ⟨refunds, hu⟩ := update_isSome_of_subset
    (db.refunds.mem_of_findOne (checkRejectRefund_ok hc).1) hid hsub
  exact ⟨(_, _), rejectRefund_ok_iff.mpr ⟨p, refund, row, refunds, hc, hlen, hu, rfl, rfl⟩⟩

/-- `updated` is a later version of `refund`: same payment, same student, same amount. -/
structure Refund.Continues (refund updated : Refund) : Prop where
  id : updated.id = refund.id
  schoolId : updated.schoolId = refund.schoolId
  originalTxHash : updated.originalTxHash = refund.originalTxHash
  studentId : updated.studentId = refund.studentId
  amount : updated.amount = refund.amount

theorem continues_approvedRefund : refund.Continues (approvedRefund refund p) :=
  ⟨rfl, rfl, rfl, rfl, rfl⟩

theorem continues_rejectedRefund {reason : String} :
    refund.Continues (rejectedRefund refund p reason) :=
  ⟨rfl, rfl, rfl, rfl, rfl⟩

theorem continues_confirmedRefund {hash : String} : refund.Continues (confirmedRefund refund hash) :=
  ⟨rfl, rfl, rfl, rfl, rfl⟩

theorem continues_statusUpdate {st : RefundStatus} {t f : Option String} :
    refund.Continues (statusUpdate refund st t f) := by
  obtain ⟨_, _, heq, -⟩ := statusUpdate_eq refund st t f
  rw [heq]
  exact ⟨rfl, rfl, rfl, rfl, rfl⟩

/-- What an accepted call other than `initiateRefund` does to refunds and rows: one
refund moves on, and at most one row takes another status. -/
theorem RefundCall.run_moves {call : RefundCall} {r : Refund × Db} (hrun : call.run db = .ok r)
    (hcall : ∀ lockFree newId args, call ≠ .initiateRefund lockFree newId args) :
    ∃ refund ∈ db.refunds.docs, refund.Continues r.1 ∧
      r.2.refunds.toCollection = db.refunds.toCollection.save r.1 ∧
      (r.2.payments = db.payments ∨ ∃ row ∈ db.payments.docs, ∃ st,
        r.2.payments = db.payments.save { row with status := st }) := by
  cases call with
  | initiateRefund lockFree newId args => exact absurd rfl (hcall lockFree newId args)
  | approveRefund refundId principal schoolId =>
    obtain ⟨p, refund, -, hfind, -, -, hup, hu, hpay, -⟩ := approveRefund_ok hrun
    refine ⟨refund, db.refunds.mem_of_findOne hfind, ?_, db.refunds.update_toCollection hu,
      Or.inl hpay⟩
    rw [hup]
    exact continues_approvedRefund
  | rejectRefund lockFree refundId principal rejectReason schoolId =>
    obtain ⟨p, refund, row, refunds, hc, -, hu, hup, hdb⟩ := rejectRefund_ok_iff.mp hrun
    obtain ⟨hfind, -, -, hrow⟩ := checkRejectRefund_ok hc
    refine ⟨refund, db.refunds.mem_of_findOne hfind, ?_, ?_, Or.inr ⟨row, Db.findPayment_mem hrow,
      .success, ?_⟩⟩
    · rw [hup]; exact continues_rejectedRefund
    · rw [hup, hdb]; exact db.refunds.update_toCollection hu
    · rw [hdb]
  | completeRefund lockFree refundId refundTxHash principal schoolId =>
    obtain ⟨p, refund, row, refunds, hc, hu, hup, hdb⟩ := completeRefund_ok_iff.mp hrun
    obtain ⟨hfind, -, hrow⟩ := checkCompleteRefund_ok hc
    refine ⟨refund, db.refunds.mem_of_findOne hfind, ?_, ?_, Or.inr ⟨row, Db.findPayment_mem hrow,
      .refunded, ?_⟩⟩
    · rw [hup]; exact continues_confirmedRefund
    · rw [hup, hdb, updateStudentBalance_refunds]; exact db.refunds.update_toCollection hu
    · rw [hdb, updateStudentBalance_payments]
  | updateRefundStatus lockFree refundId newStatus txHash failureReason schoolId =>
    obtain ⟨refund, st, hc, hup, hu, hpay, -⟩ := updateRefundStatus_ok hrun
    obtain ⟨-, hfind, -⟩ := checkUpdateRefundStatus_ok hc
    refine ⟨refund, (findRefundScoped_mem hfind).1, ?_, db.refunds.update_toCollection hu,
      Or.inl hpay⟩
    rw [hup]
    exact continues_statusUpdate

end Spec

end StellarEduPay
