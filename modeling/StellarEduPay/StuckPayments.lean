import StellarEduPay.TransactionQueue

/-! # Stuck payments (`services/stuckPaymentReconciliation.js`)

A payment that has been `SUBMITTED` for too long is to be found and given to the transaction queue
again.  The sweep spans all schools and its query names none, which the tenant plugin refuses; and a
job that is there changes no payment either.  So a stuck payment stays as it is.
-/
namespace StellarEduPay

/-- `STUCK_PAYMENT_THRESHOLD_MS` -/
def stuckPaymentThresholdMs : Nat := 900000

/-- `STUCK_PAYMENT_RECONCILIATION_MAX_BATCH` -/
def stuckPaymentMaxBatch : Nat := 100

section
variable (submittedAt : String × String × Nat → Option Nat) (now limit : Nat) (redisUp : Bool)

/-- The filter of the sweep; the rows' `submittedAt` are given by their keys. -/
def isStuck (p : Payment) : Bool :=
  p.status = .submitted ∧ p.live = true ∧
    (submittedAt p.key).any (· + stuckPaymentThresholdMs < now)

/-- `findStuckPayments` -/
def findStuckPayments : QueueM (List Payment) := do
  assertSchoolId "Payment" "find" ["status", "submittedAt", "deletedAt"]
  let s ← get
  return ((s.db.payments.docs.filter (isStuck submittedAt now)).insertionSort fun p q =>
    (submittedAt p.key).getD 0 ≤ (submittedAt q.key).getD 0).take limit

/-- The loop over what was found; a payment that cannot be enqueued is only logged. -/
def requeueStuck : List Payment → QueueM Nat
  | [] => pure 0
  | p :: rest => do
    let requeued ← tryCatch
      (do
        let _ ← enqueueTransaction p.txHash ⟨some p.schoolId, some p.studentId, none⟩ now redisUp
        return 1)
      fun _ => return 0
    return requeued + (← requeueStuck rest)

/-- `reconcileStuckPayments` -/
def reconcileStuckPayments : QueueM Nat := do
  let stuck ← findStuckPayments submittedAt now limit
  requeueStuck now redisUp stuck

/-- **The sweep always throws**, before it has read anything. -/
theorem reconcileStuckPayments_run (s : QueueStore) :
    (reconcileStuckPayments submittedAt now limit redisUp).run.run s =
      (.error (.worker (.tenantScope "Payment" "find")), s) :=
  run_bind_error (run_bind_error (assertSchoolId_run (by decide) s))

end

/-- The worker makes up to so many attempts at the job of a transaction. -/
def workerProcesses (ctx : WorkerContext) (txHash : String) : Nat → QueueStore → QueueStore
  | 0, s => s
  | attempts + 1, s =>
    match s.jobs txHash with
    | none => s
    | some job =>
      if job.state = .failed then s
      else
        let run := (jobProcessor ctx job.data).run.run s
        workerProcesses ctx txHash attempts
          (run.2.setJob txHash (settleJob run.1.isOk job))

/-- Attempts change no payment and no student. -/
theorem workerProcesses_db (ctx : WorkerContext) (txHash : String) (attempts : Nat)
    (s : QueueStore) : (workerProcesses ctx txHash attempts s).db = s.db := by
  induction attempts generalizing s with
  | zero => rfl
  | succ attempts ih =>
    unfold workerProcesses
    split
    · rfl
    split
    · rfl
    · rw [ih, jobProcessor_run]
      rfl

/-- The transaction succeeded with an operation the school can be credited for. -/
structure CreditableOnChain (ctx : WorkerContext) (school : School) (p : Payment) : Prop where
  hash : p.txHash ∈ ctx.tx.hashes
  succeeded : ctx.tx.successful = some true
  pays : creditable ctx.config.accepted (operationsTo ctx.tx school.stellarAddress) ≠ []

/-- The payment is `SUCCESS` and counted in what its student has paid. -/
structure PaymentRecovered (p : Payment) (db : Db) : Prop where
  succeeded : ∃ row ∈ db.payments.docs, row.key = p.key ∧ row.status = .success
  counted : ∃ student, db.findStudent p.schoolId p.studentId = some student ∧
    student.totalPaid = canonicalTotal db student

section
variable (submittedAt : String × String × Nat → Option Nat) (limit attempts : Nat) (redisUp : Bool)
  (ctx : WorkerContext) (school : School) (s : QueueStore)

/-- A run of the sweep, and then the worker on the job of one payment. -/
def sweepAndProcess (p : Payment) : QueueStore :=
  workerProcesses ctx p.txHash attempts
    ((reconcileStuckPayments submittedAt ctx.now limit redisUp).run.run s).2

/-- A stuck payment of the school whose transaction should have been credited. -/
structure StuckCreditable (p : Payment) : Prop where
  stored : p ∈ s.db.payments.docs
  stuck : isStuck submittedAt ctx.now p = true
  ofSchool : p.schoolId = school.schoolId
  onChain : CreditableOnChain ctx school p

/-- **Stuck payments are recovered.** -/
def StuckRecovered : Prop :=
  ∀ p, StuckCreditable submittedAt ctx school s p →
    PaymentRecovered p (sweepAndProcess submittedAt limit attempts redisUp ctx s p).db

theorem sweepAndProcess_db (p : Payment) :
    (sweepAndProcess submittedAt limit attempts redisUp ctx s p).db = s.db := by
  rw [sweepAndProcess, workerProcesses_db, reconcileStuckPayments_run]

/-- **They never are**: only where there is none is nothing left undone. -/
theorem stuck_recovered_iff_none :
    StuckRecovered submittedAt limit attempts redisUp ctx school s ↔
      ∀ p, ¬ StuckCreditable submittedAt ctx school s p := by
  constructor
  · intro hrecovered p hp
    obtain ⟨row, hrow, hkey, hsuccess⟩ := (hrecovered p hp).succeeded
    rw [sweepAndProcess_db] at hrow
    obtain rfl : row = p := s.db.payments.eq_of_key hrow hp.stored hkey
    have hsubmitted : row.status = .submitted := by
      have hstuck := hp.stuck
      simp only [isStuck, decide_eq_true_eq] at hstuck
      exact hstuck.1
    rw [hsubmitted] at hsuccess
    cases hsuccess
  · exact fun hnone p hp => absurd hp (hnone p)

end

/-- The payment `plainPayment` makes, which was never confirmed. -/
def stuckRow : Payment :=
  { Payment.withDefaults "SCH" "STU001" "tx2" 1000000000 0 with status := .submitted }

def stuckDb : Db := { paidDb with payments := ⟨[paidRow, stuckRow], by decide⟩ }

/-- A payment that was submitted sixteen minutes ago, and whose transaction succeeded, is not
recovered. -/
theorem stuck_payment_stays :
    ¬ ∀ (submittedAt : String × String × Nat → Option Nat) (redisUp : Bool) (ctx : WorkerContext)
        (school : School) (s : QueueStore),
        (s.db.payments.docs.filter (isStuck submittedAt ctx.now)).length ≤ stuckPaymentMaxBatch →
          StuckRecovered submittedAt stuckPaymentMaxBatch jobAttempts redisUp ctx school s := by
  intro h
  have hstuck : StuckCreditable (fun _ => some 0) ⟨savePayment, xlmConfig, plainPayment, 960000⟩
      sampleSchool ⟨stuckDb, .empty, fun _ => none⟩ stuckRow :=
    ⟨by decide, by decide, rfl, by decide, rfl, by decide⟩
  have hrecovered := h (fun _ => some 0) true ⟨savePayment, xlmConfig, plainPayment, 960000⟩
    sampleSchool ⟨stuckDb, .empty, fun _ => none⟩ (by decide) stuckRow hstuck
  obtain ⟨row, hrow, hkey, hsuccess⟩ := hrecovered.succeeded
  rw [sweepAndProcess_db] at hrow
  obtain rfl : row = stuckRow :=
    stuckDb.payments.eq_of_key hrow (by decide) hkey
  cases hsuccess

end StellarEduPay
