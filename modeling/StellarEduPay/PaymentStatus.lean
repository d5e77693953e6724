/-! # Payment lifecycle (`constants/paymentStatus.js`)

The statuses a stored payment can have and the two transition tables, the normal
one and the wider one an administrator may use.
-/
namespace StellarEduPay

/-- `PAYMENT_STATUS`, with the durable `REJECTED` marker the payment model adds. -/
inductive PaymentStatus
  | pending
  | submitted
  | success
  | failed
  | disputed
  | refundPending
  | refunded
  | invalid
  | rejected
  deriving DecidableEq, Repr

/-- The status as the source spells it. -/
def PaymentStatus.name : PaymentStatus → String
  | .pending => "PENDING"
  | .submitted => "SUBMITTED"
  | .success => "SUCCESS"
  | .failed => "FAILED"
  | .disputed => "DISPUTED"
  | .refundPending => "REFUND_PENDING"
  | .refunded => "REFUNDED"
  | .invalid => "INVALID"
  | .rejected => "REJECTED"

/-- `PAYMENT_STATUS_TRANSITIONS`. -/
def paymentStatusTransitions : PaymentStatus → List PaymentStatus
  | .success => [.disputed, .refundPending]
  | .refundPending => [.refunded, .success]
  | .pending => [.success, .failed]
  | .submitted => [.failed]
  | _ => []

/-- `ADMIN_PAYMENT_STATUS_TRANSITIONS`. -/
def adminPaymentStatusTransitions : PaymentStatus → List PaymentStatus
  | .success => [.disputed, .refundPending, .refunded]
  | .refundPending => [.refunded, .success]
  | .pending => [.success, .failed]
  | .submitted => [.failed]
  | .disputed => [.refunded]
  | .failed => [.success, .disputed]
  | _ => []

/-- `isTransitionAllowed`. -/
def isTransitionAllowed (source target : PaymentStatus) (adminOverride : Bool) : Bool :=
  if adminOverride then target ∈ adminPaymentStatusTransitions source
  else target ∈ paymentStatusTransitions source

end StellarEduPay
