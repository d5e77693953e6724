import StellarEduPay.OutageRecovery

/-! # The transaction queue (`queue/transactionQueue.js`, `services/transactionQueueService.js`)

A transaction to verify is a `PendingVerification` document and a job of a BullMQ queue, both under
the transaction hash.  `enqueueTransaction` writes the one and adds the other,
`recoverPendingJobs` adds what a restart has lost, and the worker runs `jobProcessor` on a job until
an attempt returns or three have thrown.

The functions change the store and throw, so they are written in `QueueM`; what was written before an
exception stays.  The tenant plugin looks at the fields of every filter that does not bypass it.
-/
namespace StellarEduPay
open Function

/-! ## The store -/

/-- What a job is added with. -/
structure JobData where
  txHash : String
  schoolId : String
  studentId : Option String
  school : Option School
  deriving DecidableEq, Repr

/-- Where BullMQ keeps a job; a completed one is removed. -/
inductive JobState
  | waiting
  | active
  | delayed
  | failed
  deriving DecidableEq, Repr

structure QueueJob where
  data : JobData
  attemptsMade : Nat
  state : JobState
  deriving DecidableEq, Repr

/-- The database, the durable records, and the jobs by their ids. -/
structure QueueStore where
  db : Db
  verifications : VerificationQueue
  jobs : String → Option QueueJob

/-- An error thrown on the way of a job. -/
inductive JobError
  | worker (e : WorkerError)
  | coded (code message : String)
  | typeError (message : String)
  deriving DecidableEq, Repr

def JobError.code : JobError → Option String
  | .worker e => e.attemptError.code
  | .coded code _ => some code
  | .typeError _ => none

def JobError.message : JobError → String
  | .worker e => e.attemptError.message
  | .coded _ message => message
  | .typeError message => message

abbrev QueueM := ExceptT JobError (StateM QueueStore)

/-- The tenant plugin, for an operation with these fields in its filter. -/
def assertSchoolId (modelName operation : String) (filter : List String) : QueueM Unit :=
  if "schoolId" ∈ filter then pure ()
  else throw (.worker (.tenantScope modelName operation))

theorem assertSchoolId_run {modelName operation : String} {filter : List String}
    (h : "schoolId" ∉ filter) (s : QueueStore) :
    (assertSchoolId modelName operation filter).run.run s =
      (.error (.worker (.tenantScope modelName operation)), s) := by
  simp only [assertSchoolId, if_neg h]
  rfl

/-- What follows an exception is not run. -/
theorem run_bind_error {α β : Type} {m : QueueM α} {f : α → QueueM β} {e : JobError}
    {s t : QueueStore} (h : m.run.run s = (.error e, t)) :
    (m >>= f).run.run s = (.error e, t) := by
  rw [ExceptT.run_bind, StateT.run_bind, h]
  rfl

/-- A caught exception goes to its handler, with the store as it was left. -/
theorem run_tryCatch_error {α : Type} {m : QueueM α} {handler : JobError → QueueM α} {e : JobError}
    {s t : QueueStore} (h : m.run.run s = (.error e, t)) :
    (tryCatch m handler).run.run s = (handler e).run.run t := by
  rw [ExceptT.run_tryCatch, StateT.run_bind, h]
  rfl

/-! ## Durable records -/

/-- An update of the record of a transaction. -/
def QueueStore.modifyVerification (s : QueueStore) (txHash : String)
    (f : PendingVerification → PendingVerification) (hf : ∀ d, (f d).txHash = d.txHash) : QueueStore :=
  { s with verifications := s.verifications.modify txHash f hf }

/-- `{ $setOnInsert: … }` with `upsert`. -/
def QueueStore.insertVerification (s : QueueStore) (doc : PendingVerification) : QueueStore :=
  { s with verifications := (s.verifications.insert doc).getD s.verifications }

/-- The arguments of `enqueueTransaction` beside the hash. -/
structure QueueContext where
  schoolId : Option String
  studentId : Option String
  school : Option School
  deriving DecidableEq, Repr

/-- `persistJob` -/
def persistJob (txHash : String) (context : QueueContext) (now : Nat) : QueueM Unit := do
  assertSchoolId "PendingVerification" "findOneAndUpdate" ["txHash"]
  modify fun s => s.insertVerification
    { schoolId := (truthy context.schoolId).getD "unknown"
      txHash := txHash
      studentId := truthy context.studentId
      nextRetryAt := now }

/-- `markResolved`, which bypasses the plugin. -/
def markResolved (txHash : String) (now : Nat) : QueueM Unit :=
  modify fun s => s.modifyVerification txHash
    (fun doc => { doc with status := .resolved, resolvedAt := some now }) fun _ => rfl

/-- `markDead`, which bypasses the plugin. -/
def markDead (txHash message : String) : QueueM Unit :=
  modify fun s => s.modifyVerification txHash
    (fun doc => { doc with status := .deadLetter, lastError := some message }) fun _ => rfl

/-- `markInterrupted`, which bypasses the plugin. -/
def markInterrupted (now : Nat) (message : String) (doc : PendingVerification) :
    PendingVerification :=
  { doc with status := .pending, lastError := some message, lastAttemptAt := some now }

theorem markInterrupted_txHash (now : Nat) (message : String) (doc : PendingVerification) :
    (markInterrupted now message doc).txHash = doc.txHash := rfl

/-! ## Jobs -/

/-- `transactionQueue.add` under a job id: an id that has a job keeps it. -/
def addJob (jobs : String → Option QueueJob) (jobId : String) (data : JobData) :
    String → Option QueueJob :=
  match jobs jobId with
  | some _ => jobs
  | none => update jobs jobId (some ⟨data, 0, .waiting⟩)

/-- The queue after the worker was handed a job, or took its hands off one. -/
def QueueStore.setJob (s : QueueStore) (txHash : String) (job : Option QueueJob) : QueueStore :=
  { s with jobs := update s.jobs txHash job }

/-- `defaultJobOptions.attempts` -/
def jobAttempts : Nat := 3

/-- What BullMQ makes of an attempt: it removes a completed job, and puts one that threw off until
its attempts are used up. -/
def settleJob (returned : Bool) (job : QueueJob) : Option QueueJob :=
  if returned then none
  else some { job with
    attemptsMade := job.attemptsMade + 1
    state := if job.attemptsMade + 1 < jobAttempts then .delayed else .failed }

/-- The data `enqueueTransaction` adds a job with. -/
def QueueContext.jobData (context : QueueContext) (txHash : String) : JobData :=
  ⟨txHash, context.schoolId.getD "", context.studentId, context.school⟩

/-- `enqueueTransaction`, with a queue that takes the job or not; the answer is whether it did. -/
def enqueueTransaction (txHash : String) (context : QueueContext) (now : Nat) (redisUp : Bool) :
    QueueM Bool := do
  persistJob txHash context now
  if redisUp then
    modify fun s => { s with jobs := addJob s.jobs txHash (context.jobData txHash) }
  return redisUp

/-- The data `recoverPendingJobs` adds a job with. -/
def recoveredData (doc : PendingVerification) : JobData :=
  ⟨doc.txHash, doc.schoolId, doc.studentId, none⟩

/-- `{ status: { $in: ['pending', 'processing'] } }` -/
def unresolved (doc : PendingVerification) : Bool := !doc.status.terminal

/-- The reset of a record that is recovered. -/
def resetProcessing (schoolId : String) (doc : PendingVerification) : PendingVerification :=
  if doc.schoolId = schoolId ∧ doc.status = .processing then { doc with status := .pending } else doc

theorem resetProcessing_txHash (schoolId : String) (doc : PendingVerification) :
    (resetProcessing schoolId doc).txHash = doc.txHash := by
  unfold resetProcessing
  split <;> rfl

/-! ## The worker -/

/-- `PERMANENT_FAIL_CODES` of the worker. -/
def queueFailCodes : List String :=
  ["TX_FAILED", "MISSING_MEMO", "INVALID_DESTINATION", "UNSUPPORTED_ASSET", "AMOUNT_TOO_LOW",
    "AMOUNT_TOO_HIGH", "UNDERPAID"]

/-- The first update of an attempt. -/
def startAttempt (now : Nat) (doc : PendingVerification) : PendingVerification :=
  if unresolved doc then
    { doc with status := .processing, lastAttemptAt := some now, attempts := doc.attempts + 1 }
  else doc

theorem startAttempt_txHash (now : Nat) (doc : PendingVerification) :
    (startAttempt now doc).txHash = doc.txHash := by
  unfold startAttempt
  split <;> rfl

/-- What an attempt returns. -/
inductive JobResult
  | skipped (txHash : String)
  | success (txHash studentId : String)
  deriving DecidableEq, Repr

/-- What an attempt meets outside the store: Horizon's answer, the time, and how payments are
recorded. -/
structure WorkerContext where
  recordPayment : Db → Payment → Except RecordError Db
  config : IngestConfig
  tx : Transaction
  now : Nat

/-- The row the worker records. -/
def queueRow (ctx : WorkerContext) (data : JobData) (result : VerifiedTransaction) : Payment :=
  { Payment.withDefaults data.schoolId
      (if result.studentId = "" then result.memo else result.studentId) result.hash result.amount
      ctx.now with
    feeAmount := result.feeAmount
    feeValidationStatus := (feeValidation result).1
    excessAmount := (feeValidation result).2
    status := .success
    memo := some result.memo
    senderAddress := result.senderAddress
    ledgerSequence := result.ledger }

/-- `validatePaymentAgainstFee`, its message for an amount below the fee. -/
def underpaidMessage (result : VerifiedTransaction) : String :=
  "Payment of " ++ jsNumber result.amount ++ " is less than the required fee of " ++
    jsNumber (result.feeAmount.getD 0)

/-- The intent under the memo of a verified transaction; an expired one is marked and stops the
job. -/
def checkIntent (ctx : WorkerContext) (data : JobData) (result : VerifiedTransaction) :
    QueueM Unit := do
  let s ← get
  match s.db.paymentIntents.findOne fun i => i.memo == result.memo && i.schoolId == data.schoolId with
  | some intent =>
    if intent.expiresAt < ctx.now then
      set { s with db := expireIntent s.db data.schoolId result.memo ctx.now }
      throw (.coded "INTENT_EXPIRED" "Payment intent has expired")
  | none => pure ()

/-- The part of an attempt after the transaction was verified. -/
def creditJob (ctx : WorkerContext) (data : JobData) (result : VerifiedTransaction) :
    QueueM JobResult := do
  if (feeValidation result).1 = .underpaid then
    throw (.coded "UNDERPAID" (underpaidMessage result))
  checkIntent ctx data result
  assertSchoolId "Student" "findOne" ["studentId"]
  let s ← get
  match s.db.students.findOne fun st => st.studentId == (queueRow ctx data result).studentId with
  | none => throw (.coded "NOT_FOUND" "Associated student not found")
  | some _ =>
    match ctx.recordPayment s.db (queueRow ctx data result) with
    | .error e => throw (.worker (.record e))
    | .ok db =>
      set { s with db := db }
      markResolved data.txHash ctx.now
      return .success data.txHash (queueRow ctx data result).studentId

/-- `processTransactionJob` -/
def processTransactionJob (ctx : WorkerContext) (data : JobData) : QueueM JobResult := do
  assertSchoolId "PendingVerification" "findOneAndUpdate" ["txHash", "status"]
  modify fun s => s.modifyVerification data.txHash (startAttempt ctx.now) (startAttempt_txHash ctx.now)
  let s ← get
  match s.db.findPaymentByTx data.schoolId data.txHash with
  | some _ =>
    markResolved data.txHash ctx.now
    return .skipped data.txHash
  | none =>
    match data.school with
    | none => throw (.typeError "Cannot read properties of undefined (reading 'stellarAddress')")
    | some school =>
      match verifyTransactionScoped ctx.config s.db ctx.tx school.stellarAddress none with
      | .error e => throw (.worker e)
      | .ok result => creditJob ctx data result

/-- The row that records a permanent failure. -/
def failureRow (ctx : WorkerContext) (data : JobData) : Payment :=
  { Payment.withDefaults data.schoolId "unknown" data.txHash 0 ctx.now with status := .failed }

/-- The `catch` of `_jobProcessor`. -/
def jobFailed (ctx : WorkerContext) (data : JobData) (err : JobError) : QueueM JobResult := do
  if err.code.any (· ∈ queueFailCodes) then
    modify fun s => { s with db := { s.db with
      payments := (s.db.payments.insert (failureRow ctx data)).getD s.db.payments } }
    markDead data.txHash err.message
    throw (.coded (err.code.getD "") ("[permanent] " ++ err.message))
  else
    assertSchoolId "PendingVerification" "findOneAndUpdate" ["txHash"]
    modify fun s => s.modifyVerification data.txHash
      (fun doc => { doc with lastError := some err.message }) fun _ => rfl
    throw err

/-- `_jobProcessor` -/
def jobProcessor (ctx : WorkerContext) (data : JobData) : QueueM JobResult :=
  tryCatch (processTransactionJob ctx data) (jobFailed ctx data)

/-! ## Under the plugin -/

/-- The refusal of an update of a record by its hash alone. -/
def hashRefused : JobError := .worker (.tenantScope "PendingVerification" "findOneAndUpdate")

theorem enqueueTransaction_run (txHash : String) (context : QueueContext) (now : Nat)
    (redisUp : Bool) (s : QueueStore) :
    (enqueueTransaction txHash context now redisUp).run.run s = (.error hashRefused, s) := by
  refine run_bind_error ?_
  exact run_bind_error (assertSchoolId_run (by decide) s)

theorem processTransactionJob_run (ctx : WorkerContext) (data : JobData) (s : QueueStore) :
    (processTransactionJob ctx data).run.run s = (.error hashRefused, s) :=
  run_bind_error (assertSchoolId_run (by decide) s)

theorem jobFailed_run (ctx : WorkerContext) (data : JobData) (s : QueueStore) :
    (jobFailed ctx data hashRefused).run.run s = (.error hashRefused, s) := by
  have htransient : hashRefused.code.any (· ∈ queueFailCodes) = false := rfl
  simp only [jobFailed, htransient]
  exact run_bind_error (assertSchoolId_run (by decide) s)

/-- **Every attempt throws** at its first update, whose handler throws at its own, and the store is
left alone. -/
theorem jobProcessor_run (ctx : WorkerContext) (data : JobData) (s : QueueStore) :
    (jobProcessor ctx data).run.run s = (.error hashRefused, s) := by
  rw [jobProcessor, run_tryCatch_error (processTransactionJob_run ctx data s)]
  exact jobFailed_run ctx data s

end StellarEduPay
