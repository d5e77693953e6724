import StellarEduPay.Ingestion
import StellarEduPay.PendingVerifications

/-! # Verification after an outage

What `verifyPayment` would have credited during an outage is queued, and the retry worker
later goes through a credit path of its own: it verifies the transaction again, hands a
payment to `recordPayment` and settles the item.  It calls `verifyTransaction` without the
school, and the tenant plugin refuses the student lookup of such a call, so nothing the
worker handles ever reaches `recordPayment`.
-/
namespace StellarEduPay

/-! ## Verification with an optional school -/

/-- An error thrown while the worker handles an item. -/
inductive WorkerError
  | verify (e : VerifyError)
  | tenantScope (modelName operation : String)
  | record (e : RecordError)
  deriving DecidableEq, Repr

/-- The `code` as the source spells it. -/
def VerifyErrorCode.name : VerifyErrorCode → Option String
  | .notFound => some "NOT_FOUND"
  | .horizonUnavailable => some "HORIZON_UNAVAILABLE"
  | .txFailed => some "TX_FAILED"
  | .missingMemo => some "MISSING_MEMO"
  | .unsupportedMemoType => some "UNSUPPORTED_MEMO_TYPE"
  | .invalidDestination => some "INVALID_DESTINATION"
  | .unsupportedAsset => some "UNSUPPORTED_ASSET"
  | .invalidAmount => some "INVALID_AMOUNT"
  | .amountTooLow => some "AMOUNT_TOO_LOW"
  | .amountTooHigh => some "AMOUNT_TOO_HIGH"
  | .underpaid => some "UNDERPAID"
  | .uncoded => none

/-- The error as the worker's `catch` sees it. -/
def WorkerError.attemptError : WorkerError → AttemptError
  | .verify e => ⟨e.code.name, e.message⟩
  | .tenantScope modelName operation => ⟨some "TENANT_SCOPE_MISSING",
      "[TenantScope] \"" ++ operation ++ "\" on tenant-scoped model \"" ++ modelName ++
      "\" is missing required \"schoolId\" filter. Every query on a tenant-scoped model must " ++
      "include schoolId. For cross-tenant infrastructure operations, chain " ++
      ".bypassTenantScope() or pass \x7b _bypassTenantScope: true \x7d in options."⟩
  | .record .duplicateTx => ⟨some "DUPLICATE_TX", "Transaction already recorded"⟩
  | .record (.other message) => ⟨none, message⟩

/-- `Student.findOne` under the tenant plugin: without a school it throws. -/
def findStudentScoped (db : Db) (schoolId : Option String) (studentId : String) :
    Except WorkerError (Option Student) :=
  match schoolId with
  | some schoolId => .ok (db.findStudent schoolId studentId)
  | none => .error (.tenantScope "Student" "findOne")

/-- The limits an optional school resolves to; without one only the system's and the
environment's are consulted. -/
def scopedLimits (limits : LimitsStore) : Option String → LimitsStore
  | some _ => limits
  | none => { limits with school := fun _ => none }

/-- `verifyTransaction(txHash, walletAddress, schoolId = null)`. -/
def verifyTransactionScoped (config : IngestConfig) (db : Db) (tx : Transaction)
    (walletAddress : String) (schoolId : Option String) : Except WorkerError VerifiedTransaction :=
  if tx.successful = some false then
    .error (.verify ⟨.txFailed, "Transaction was not successful on the Stellar network"⟩)
  else if (operationsTo tx walletAddress).isEmpty then
    .error (.verify ⟨.invalidDestination,
      "No payment operation found targeting the school wallet (" ++ walletAddress ++ ")"⟩)
  else match creditOperations config.sdk config.accepted (operationsTo tx walletAddress) with
  | .error e => .error (.verify e)
  | .ok operations =>
    match verifyMemo tx with
    | .error e => .error (.verify e)
    | .ok memo =>
      match firstViolation (scopedLimits config.limits schoolId) (schoolId.getD "") operations with
      | some violation => .error (.verify ⟨violation.code.verifyErrorCode, violation.error⟩)
      | none =>
        match findStudentScoped db schoolId memo with
        | .error e => .error e
        | .ok student => .ok
            { hash := tx.hash
              memo := memo
              studentId := memo
              amount := creditedTotal operations
              feeAmount := student.map (·.feeAmount)
              senderAddress := operations.head?.bind (·.payOp.fromAddress.filter (· ≠ ""))
              ledger := tx.ledger }

/-- **Without a school it never succeeds.** -/
theorem verifyTransactionScoped_none (config : IngestConfig) (db : Db) (tx : Transaction)
    (walletAddress : String) :
    ∃ e, verifyTransactionScoped config db tx walletAddress none = .error e := by
  unfold verifyTransactionScoped
  split
  · exact ⟨_, rfl⟩
  split
  · exact ⟨_, rfl⟩
  split
  · exact ⟨_, rfl⟩
  split
  · exact ⟨_, rfl⟩
  split
  · exact ⟨_, rfl⟩
  · exact ⟨_, rfl⟩

/-! ## The worker's credit path -/

/-- The fields of a payment handed to `recordPayment`, with the status as it is spelled. -/
structure PaymentData where
  schoolId : String
  studentId : String
  txHash : String
  amount : Int
  feeAmount : Option Int
  feeValidationStatus : FeeStatus
  excessAmount : Int
  status : String
  memo : Option String
  deriving DecidableEq, Repr

/-- What `verifyPayment` hands over for its row. -/
def Payment.data (row : Payment) : PaymentData where
  schoolId := row.schoolId
  studentId := row.studentId
  txHash := row.txHash
  amount := row.amount
  feeAmount := row.feeAmount
  feeValidationStatus := row.feeValidationStatus
  excessAmount := row.excessAmount
  status := row.status.name
  memo := row.memo

/-- `validatePaymentAgainstFee`: one payment against the whole fee. -/
def validatePaymentAgainstFee (paid fee : Int) : FeeStatus × Int :=
  if paid < fee then (.underpaid, 0)
  else if fee < paid then (.overpaid, paid - fee)
  else (.valid, 0)

/-- `result.feeValidation` -/
def feeValidation (result : VerifiedTransaction) : FeeStatus × Int :=
  match result.feeAmount with
  | some fee => validatePaymentAgainstFee result.amount fee
  | none => (.unknown, 0)

/-- The payment the worker hands over; `result` has no `expectedAmount`. -/
def workerPayment (item : PendingVerification) (result : VerifiedTransaction) : PaymentData where
  schoolId := item.schoolId
  studentId := if result.studentId = "" then result.memo else result.studentId
  txHash := result.hash
  amount := result.amount
  feeAmount := result.feeAmount
  feeValidationStatus := (feeValidation result).1
  excessAmount := (feeValidation result).2
  status := "confirmed"
  memo := some result.memo

/-- One pass of the loop of `processPendingVerifications`: the payment handed over, how the
item is settled, and the store. -/
structure Attempt where
  handed : Option PaymentData
  outcome : ItemOutcome
  db : Db

/-- Handle one item with Horizon answering `tx`.  `school` is the active school of the item. -/
def processItem (recordPayment : Db → PaymentData → Except RecordError Db) (config : IngestConfig)
    (db : Db) (item : PendingVerification) (school : Option School) (tx : Transaction) : Attempt :=
  match school with
  | none => ⟨none, .schoolMissing, db⟩
  | some school =>
    match verifyTransactionScoped config db tx school.stellarAddress none with
    | .error e => ⟨none, .failed e.attemptError, db⟩
    | .ok result =>
      let data := workerPayment item result
      match recordPayment db data with
      | .error e => ⟨some data, .failed (WorkerError.record e).attemptError, db⟩
      | .ok db => ⟨some data, .resolved, db⟩

/-- **The worker hands nothing over**, leaves the store alone, and never resolves the item. -/
theorem processItem_hands_nothing (recordPayment : Db → PaymentData → Except RecordError Db)
    (config : IngestConfig) (db : Db) (item : PendingVerification) (school : Option School)
    (tx : Transaction) :
    (processItem recordPayment config db item school tx).handed = none ∧
      (processItem recordPayment config db item school tx).outcome ≠ .resolved ∧
      (processItem recordPayment config db item school tx).db = db := by
  unfold processItem
  cases school with
  | none => exact ⟨rfl, by simp, rfl⟩
  | some school =>
    obtain ⟨e, he⟩ := verifyTransactionScoped_none config db tx school.stellarAddress
    simp only [he]
    exact ⟨trivial, by simp, trivial⟩

/-- What the two hand over agrees: school and student, amount, a status that is stored and
counts as paid, and the cumulative fee status. -/
structure SamePayment (row : Payment) (data : PaymentData) : Prop where
  schoolId : data.schoolId = row.schoolId
  studentId : data.studentId = row.studentId
  amount : data.amount = row.amount
  status : data.status = PaymentStatus.success.name
  feeStatus : data.feeValidationStatus = row.feeValidationStatus

/-- **Recovery is transparent** for a transaction on a store: if `verifyPayment` would record
a row, the worker's attempt at the queued item hands over the same payment, and the students
end up with the same balances. -/
def RecoveryTransparent (recordPayment : Db → PaymentData → Except RecordError Db)
    (config : IngestConfig) (db : Db) (tx : Transaction) (school : School) (req : VerifyRequest)
    (item : PendingVerification) (activeSchool : Option School) : Prop :=
  ∀ row verified,
    verifyReported (fun db row => recordPayment db row.data) config db tx school req =
      (.verified row, verified) →
    ∃ data, (processItem recordPayment config db item activeSchool tx).handed = some data ∧
      SamePayment row data ∧
      (processItem recordPayment config db item activeSchool tx).db.students = verified.students

/-- **It never is**, except where `verifyPayment` records nothing either. -/
theorem recovery_transparent_iff_nothing_recorded
    (recordPayment : Db → PaymentData → Except RecordError Db) (config : IngestConfig) (db : Db)
    (tx : Transaction) (school : School) (req : VerifyRequest) (item : PendingVerification)
    (activeSchool : Option School) :
    RecoveryTransparent recordPayment config db tx school req item activeSchool ↔
      ∀ row verified,
        verifyReported (fun db row => recordPayment db row.data) config db tx school req ≠
          (.verified row, verified) := by
  constructor
  · intro htransparent row verified hrecorded
    obtain ⟨data, hhanded, -⟩ := htransparent row verified hrecorded
    rw [(processItem_hands_nothing recordPayment config db item activeSchool tx).1] at hhanded
    cases hhanded
  · exact fun hnothing row verified hrecorded => absurd hrecorded (hnothing row verified)

/-- What `recordPayment` does with a payment that passes the schema, and with one whose status
does not. -/
def recordData (db : Db) (data : PaymentData) : Except RecordError Db :=
  if data.status = PaymentStatus.success.name then
    savePayment db { Payment.withDefaults data.schoolId data.studentId data.txHash data.amount 5 with
      feeAmount := data.feeAmount
      feeValidationStatus := data.feeValidationStatus
      excessAmount := data.excessAmount
      status := .success
      memo := data.memo }
  else .error (.other "Payment validation failed")

/-- The item queued for the payment of the sample store. -/
def sampleItem : PendingVerification := { schoolId := "SCH", txHash := "tx2", nextRetryAt := 5 }

/-- `verifyPayment` credits the payment; the worker, a little later, does not. -/
theorem recovery_loses_payment :
    ¬ ∀ (config : IngestConfig) (db : Db) (tx : Transaction) (school : School) (req : VerifyRequest)
        (item : PendingVerification), config.sdk.Documented → item.schoolId = req.schoolId →
        item.txHash = req.normalizedHash →
        RecoveryTransparent recordData config db tx school req item (some school) := by
  intro h
  obtain ⟨row, verified, hrecorded⟩ : ∃ row verified,
      verifyReported (fun db row => recordData db row.data) xlmConfig paidDb plainPayment
        sampleSchool sampleRequest = (.verified row, verified) := ⟨_, _, rfl⟩
  obtain ⟨data, hhanded, -⟩ := h xlmConfig paidDb plainPayment sampleSchool sampleRequest sampleItem
    xlmConfig_documented rfl rfl row verified hrecorded
  rw [(processItem_hands_nothing recordData xlmConfig paidDb sampleItem (some sampleSchool)
    plainPayment).1] at hhanded
  cases hhanded

end StellarEduPay
