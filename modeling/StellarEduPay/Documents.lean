import StellarEduPay.Collection
import StellarEduPay.JsString
import StellarEduPay.Money
import StellarEduPay.PaymentStatus

/-! # Stored documents (`models/*.js`)

The documents the payment core reads and writes, with the fields it uses, and
`Db`, the collections that hold them.  Keys are the unique indexes of the
models: a payment row is identified by school, transaction hash and operation
index, so one transaction hash may own several rows.

A soft-deleted document has a `deletedAt`.  The query hook of `softDelete` hides
it from every `find` and `findOne`, but its key stays taken.
-/
namespace StellarEduPay

/-! ## Payments and students -/

/-- `suspicionReviewStatus`. -/
inductive SuspicionReviewStatus
  | flagged
  | cleared
  | confirmedFraud
  deriving DecidableEq, Repr

/-- `paymentModel`. -/
structure Payment where
  schoolId : String
  studentId : String
  txHash : String
  opIndex : Nat
  amount : Int
  feeAmount : Option Int
  feeCategory : Option String
  feeValidationStatus : FeeStatus
  excessAmount : Int
  status : PaymentStatus
  memo : Option String
  senderAddress : Option String
  isSuspicious : Bool
  suspicionReason : Option String
  suspicionReviewStatus : SuspicionReviewStatus
  suspicionReviewedBy : Option String
  suspicionReviewNote : Option String
  receivedOnRetiredAddress : Bool
  transactionHash : Option String
  ledgerSequence : Option Nat
  createdAt : Nat
  deletedAt : Option Nat
  deriving DecidableEq, Repr

namespace Payment

/-- The unique index `{ schoolId, txHash, opIndex }`. -/
def key (p : Payment) : String × String × Nat := (p.schoolId, p.txHash, p.opIndex)

/-- The row is not soft-deleted. -/
def live (p : Payment) : Bool := p.deletedAt.isNone

/-- `new Payment({ schoolId, studentId, txHash, amount })` at time `createdAt`, with
the schema's defaults. -/
def withDefaults (schoolId studentId txHash : String) (amount : Int) (createdAt : Nat) :
    Payment where
  schoolId := schoolId
  studentId := studentId
  txHash := txHash
  opIndex := 0
  amount := amount
  feeAmount := none
  feeCategory := none
  feeValidationStatus := .unknown
  excessAmount := 0
  status := .pending
  memo := none
  senderAddress := none
  isSuspicious := false
  suspicionReason := none
  suspicionReviewStatus := .flagged
  suspicionReviewedBy := none
  suspicionReviewNote := none
  receivedOnRetiredAddress := false
  transactionHash := none
  ledgerSequence := none
  createdAt := createdAt
  deletedAt := none

/-- The student a row belongs to. -/
def owner (p : Payment) : String × String := (p.schoolId, p.studentId)

@[simp] theorem key_status (p : Payment) (st : PaymentStatus) :
    ({ p with status := st } : Payment).key = p.key := rfl

@[simp] theorem owner_status (p : Payment) (st : PaymentStatus) :
    ({ p with status := st } : Payment).owner = p.owner := rfl

end Payment

/-- One entry of `Student.fees`. -/
structure FeeCategory where
  category : String
  amount : Int
  paid : Bool
  totalPaid : Int
  remainingBalance : Option Int
  deriving DecidableEq, Repr

/-- `studentModel`, with the balance fields denormalised onto it. -/
structure Student where
  schoolId : String
  studentId : String
  feeAmount : Int
  fees : List FeeCategory
  feePaid : Bool
  totalPaid : Int
  remainingBalance : Option Int
  creditAdjustments : Int
  deletedAt : Option Nat
  deriving DecidableEq, Repr

namespace Student

/-- The unique index `{ schoolId, studentId }`. -/
def key (s : Student) : String × String := (s.schoolId, s.studentId)

def live (s : Student) : Bool := s.deletedAt.isNone

end Student

/-- `academicPeriodModel`. -/
structure AcademicPeriod where
  id : String
  schoolId : String
  isCurrent : Bool
  startsAt : Nat
  deriving DecidableEq, Repr

/-- `studentPeriodFeeModel`. -/
structure StudentPeriodFee where
  schoolId : String
  studentId : String
  periodId : String
  feeAmount : Int
  carriedArrears : Int
  creditAdjustments : Int
  totalPaid : Int
  remainingBalance : Option Int
  feePaid : Bool
  deriving DecidableEq, Repr

/-- The unique index `{ schoolId, studentId, periodId }`. -/
def StudentPeriodFee.key (f : StudentPeriodFee) : String × String × String :=
  (f.schoolId, f.studentId, f.periodId)

/-- `PaymentIntent.status`. -/
inductive IntentStatus
  | pending
  | completed
  | expired
  deriving DecidableEq, Repr

/-- The status as the source spells it. -/
def IntentStatus.name : IntentStatus → String
  | .pending => "pending"
  | .completed => "completed"
  | .expired => "expired"

/-- `paymentIntentModel`. -/
structure PaymentIntent where
  id : String
  schoolId : String
  studentId : String
  memo : String
  status : IntentStatus
  expiresAt : Nat
  deriving DecidableEq, Repr

/-! ## Refunds -/

/-- A caller of the refund endpoints. -/
structure Principal where
  userId : String
  displayName : String
  deriving DecidableEq, Repr

/-- `Refund.status`. -/
inductive RefundStatus
  | approvalPending
  | pending
  | submitted
  | confirmed
  | rejected
  | failed
  deriving DecidableEq, Repr

namespace RefundStatus

/-- The status as the source spells it. -/
def name : RefundStatus → String
  | approvalPending => "approval_pending"
  | pending => "pending"
  | submitted => "submitted"
  | confirmed => "confirmed"
  | rejected => "rejected"
  | failed => "failed"

/-- `ACTIVE_REFUND_STATUSES`. -/
def active : List RefundStatus := [approvalPending, pending, submitted, confirmed]

/-- `REFUND_STATUS_TRANSITIONS`. -/
def transitions : RefundStatus → List RefundStatus
  | approvalPending => [pending, rejected, failed]
  | pending => [submitted, failed]
  | submitted => [confirmed, failed]
  | confirmed => []
  | rejected => []
  | failed => []

/-- A refund in this state can still move. -/
def inProgress (s : RefundStatus) : Bool := !s.transitions.isEmpty

theorem inProgress_of_mem {s t : RefundStatus} (h : t ∈ s.transitions) : s.inProgress = true := by
  cases s <;> first | rfl | cases h

end RefundStatus

/-- `refundModel`. -/
structure Refund where
  id : String
  schoolId : String
  originalTxHash : String
  studentId : String
  refundTxHash : Option String
  amount : Int
  status : RefundStatus
  reason : String
  initiatedBy : Principal
  approvedBy : Option Principal
  rejectedBy : Option Principal
  rejectionReason : Option String
  failureReason : Option String
  deriving DecidableEq, Repr

/-- An entry of one of the two unique indexes of `refundModel`. -/
inductive RefundIndex
  /-- `unique_active_refund_per_payment`. -/
  | activePayment (schoolId originalTxHash : String)
  /-- `refundTxHash: { default: null, unique: true, sparse: true }`. -/
  | refundTxHash (hash : Option String)
  deriving DecidableEq, Repr

namespace Refund

/-- The index entries of a refund.  The first index is partial, on the active
statuses.  The second is sparse, which leaves out documents that lack the field;
a refund has it from the start, as an explicit `null`, so `null` is indexed too. -/
def indexEntries (r : Refund) : List RefundIndex :=
  RefundIndex.refundTxHash r.refundTxHash ::
    if r.status ∈ RefundStatus.active then [.activePayment r.schoolId r.originalTxHash] else []

@[simp] theorem refundTxHash_mem_indexEntries (r : Refund) (hash : Option String) :
    RefundIndex.refundTxHash hash ∈ r.indexEntries ↔ r.refundTxHash = hash := by
  unfold indexEntries
  split <;> simp [eq_comm]

@[simp] theorem activePayment_mem_indexEntries (r : Refund) (schoolId txHash : String) :
    RefundIndex.activePayment schoolId txHash ∈ r.indexEntries ↔
      r.status ∈ RefundStatus.active ∧ r.schoolId = schoolId ∧ r.originalTxHash = txHash := by
  unfold indexEntries
  split <;> simp_all [eq_comm]

end Refund

/-- The refunds, under both unique indexes. -/
abbrev RefundCollection := Indexed Refund String RefundIndex Refund.id Refund.indexEntries

/-! ## Outbox -/

/-- The payload of an outbox event, by event type. -/
inductive OutboxEvent
  | paymentSaved (payment : Payment)
  | refundInitiated (refundId schoolId originalTxHash studentId : String) (amount : Int)
      (reason : String) (initiatedBy : Principal)
  | refundApproved (refundId schoolId originalTxHash : String)
      (initiatedBy approvedBy : Principal) (amount : Int)
  | refundRejected (refundId schoolId originalTxHash studentId : String) (amount : Int)
      (rejectedBy : Principal) (rejectionReason : String)
  | refundCompleted (refundId schoolId originalTxHash studentId : String) (amount : Int)
      (previousStatus newStatus : RefundStatus) (refundTxHash : String) (completedBy : Principal)
  | refundStatusChanged (refundId schoolId originalTxHash : String)
      (previousStatus newStatus : RefundStatus) (refundTxHash failureReason : Option String)
  deriving DecidableEq, Repr

/-! ## The store -/

/-- The collections the payment core works on. -/
structure Db where
  payments : Collection Payment (String × String × Nat) Payment.key
  students : Collection Student (String × String) Student.key
  refunds : RefundCollection
  academicPeriods : List AcademicPeriod
  studentPeriodFees : Collection StudentPeriodFee (String × String × String) StudentPeriodFee.key
  paymentIntents : Collection PaymentIntent String PaymentIntent.id
  outbox : List OutboxEvent

namespace Db
variable (db : Db)

/-- `Payment.findOne`, which hides soft-deleted rows. -/
def findPayment (p : Payment → Bool) : Option Payment :=
  db.payments.findOne fun row => row.live && p row

/-- `Student.findOne({ schoolId, studentId })`, which hides soft-deleted students. -/
def findStudent (schoolId studentId : String) : Option Student :=
  db.students.findOne fun s => s.live && s.schoolId == schoolId && s.studentId == studentId

/-- `Payment.findOne({ schoolId, txHash })`: the first live row of the transaction. -/
def findPaymentByTx (schoolId txHash : String) : Option Payment :=
  db.findPayment fun p => p.schoolId == schoolId && p.txHash == txHash

variable {db}

theorem findPayment_mem {p : Payment → Bool} {row : Payment} (h : db.findPayment p = some row) :
    row ∈ db.payments.docs :=
  db.payments.mem_of_findOne h

theorem findPayment_sat {p : Payment → Bool} {row : Payment} (h : db.findPayment p = some row) :
    row.live = true ∧ p row = true := by
  simpa using db.payments.findOne_sat h

theorem findPaymentByTx_sat {schoolId txHash : String} {row : Payment}
    (h : db.findPaymentByTx schoolId txHash = some row) :
    row.live = true ∧ row.schoolId = schoolId ∧ row.txHash = txHash := by
  simpa using findPayment_sat h

theorem findStudent_mem {schoolId studentId : String} {s : Student}
    (h : db.findStudent schoolId studentId = some s) : s ∈ db.students.docs :=
  db.students.mem_of_findOne h

theorem findStudent_sat {schoolId studentId : String} {s : Student}
    (h : db.findStudent schoolId studentId = some s) :
    s.live = true ∧ s.schoolId = schoolId ∧ s.studentId = studentId := by
  have := db.students.findOne_sat h
  simpa [and_assoc] using this

/-- A live student is found under its own identifiers. -/
theorem findStudent_of_mem {s : Student} (hs : s ∈ db.students.docs) (hl : s.live = true) :
    db.findStudent s.schoolId s.studentId = some s := by
  refine db.students.findOne_eq_some_of_key hs (by simp [hl]) fun e _ he => ?_
  simp only [Bool.and_eq_true, beq_iff_eq] at he
  exact Prod.ext he.1.2 he.2

end Db

end StellarEduPay
