import StellarEduPay.TransactionQueue

/-! # The worker against `verifyPayment`

The worker of the transaction queue is a credit path of its own, beside `verifyPayment`.  Its first
statement updates the durable record by the hash alone, which the tenant plugin refuses, and so does
the handler of the error it throws.  An attempt therefore credits nothing, and leaves nothing that a
later `verifyPayment` could stumble over.
-/
namespace StellarEduPay

/-- The data of the job for the transaction a request reports, with its school. -/
def reportedJob (school : School) (req : VerifyRequest) (studentId : Option String) : JobData :=
  ⟨req.normalizedHash, req.schoolId, studentId, some school⟩

section
variable (ctx : WorkerContext) (s : QueueStore) (school : School) (req : VerifyRequest)
  (studentId : Option String)

/-- `verifyPayment` credits the transaction on a store, in `row`. -/
def VerifyPaymentCredits (db : Db) (row : Payment) (verified : Db) : Prop :=
  verifyReported ctx.recordPayment ctx.config db ctx.tx school req = (.verified row, verified)

/-- The worker's attempt: what it returns or throws, and the store afterwards. -/
def workerRun : Except JobError JobResult × QueueStore :=
  (jobProcessor ctx (reportedJob school req studentId)).run.run s

/-- A store has what `verifyPayment` left for the student of `row`: a row of the same student,
amount and status, and the same balance. -/
structure CreditedAs (row : Payment) (verified worker : Db) : Prop where
  recorded : ∃ p ∈ worker.payments.docs, p.key = row.key ∧ p.studentId = row.studentId ∧
    p.amount = row.amount ∧ p.status = row.status
  student : worker.findStudent row.schoolId row.studentId =
    verified.findStudent row.schoolId row.studentId

/-- **The worker credits what `verifyPayment` credits**, and an attempt that fails does not stand in
the way of `verifyPayment`. -/
structure WorkerAgrees : Prop where
  credits : ∀ row verified, VerifyPaymentCredits ctx school req s.db row verified →
    (∃ result, (workerRun ctx s school req studentId).1 = .ok result) ∧
      CreditedAs row verified (workerRun ctx s school req studentId).2.db
  noObstacle : ∀ e, (workerRun ctx s school req studentId).1 = .error e → ∀ later : VerifyRequest,
    (∃ row verified, VerifyPaymentCredits ctx school later s.db row verified) →
      ∃ row verified, VerifyPaymentCredits ctx school later
        (workerRun ctx s school req studentId).2.db row verified

theorem workerRun_eq : workerRun ctx s school req studentId = (.error hashRefused, s) :=
  jobProcessor_run ctx (reportedJob school req studentId) s

/-- **It never does**, except where `verifyPayment` credits nothing either. -/
theorem worker_agrees_iff_nothing_credited :
    WorkerAgrees ctx s school req studentId ↔
      ∀ row verified, ¬ VerifyPaymentCredits ctx school req s.db row verified := by
  constructor
  · intro hagrees row verified hcredits
    obtain ⟨⟨result, hresult⟩, -⟩ := hagrees.credits row verified hcredits
    rw [workerRun_eq] at hresult
    cases hresult
  · intro hnothing
    refine ⟨fun row verified hcredits => absurd hcredits (hnothing row verified), ?_⟩
    intro e _ later hlater
    rw [workerRun_eq]
    exact hlater

end

/-- What the worker of the sample deployment meets. -/
def sampleWorker : WorkerContext := ⟨savePayment, xlmConfig, plainPayment, 5⟩

/-- The sample store, with no record and no job. -/
def sampleQueue : QueueStore := ⟨paidDb, .empty, fun _ => none⟩

/-- `verifyPayment` credits the plain payment; the worker throws on it. -/
theorem worker_refuses_plain_payment :
    ¬ ∀ (ctx : WorkerContext) (s : QueueStore) (school : School) (req : VerifyRequest)
        (studentId : Option String), ctx.config.sdk.Documented → req.schoolId = school.schoolId →
        req.normalizedHash ∈ ctx.tx.hashes → WorkerAgrees ctx s school req studentId := by
  intro h
  obtain ⟨row, verified, hcredits⟩ : ∃ row verified,
      VerifyPaymentCredits sampleWorker sampleSchool sampleRequest sampleQueue.db row verified :=
    ⟨_, _, rfl⟩
  obtain ⟨⟨result, hresult⟩, -⟩ := (h sampleWorker sampleQueue sampleSchool sampleRequest none
    xlmConfig_documented rfl (by decide)).credits row verified hcredits
  rw [workerRun_eq] at hresult
  cases hresult

end StellarEduPay
