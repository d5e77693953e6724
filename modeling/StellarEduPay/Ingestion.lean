import StellarEduPay.StellarTransaction

/-! # Two ways in (`services/transactionPollingService.js`)

A payment reaches the store through `verifyPayment`, when somebody reports its hash,
or through the poller's `processTransaction`, when it shows up in the wallet's
history.  This module models the poller's path and compares the two.
-/
namespace StellarEduPay

/-! ## processTransaction -/

/-- `unmatchedPaymentModel`. -/
structure UnmatchedPayment where
  schoolId : String
  txHash : String
  opIndex : Nat
  amount : Option Int
  assetCode : Option String
  memo : String
  memoType : String
  senderAddress : Option String
  ledger : Option Nat
  reason : String
  deriving DecidableEq, Repr

/-- The unique index `{ schoolId, txHash, opIndex }`. -/
def UnmatchedPayment.key (u : UnmatchedPayment) : String × String × Nat :=
  (u.schoolId, u.txHash, u.opIndex)

/-- The store of the poller. -/
structure PollStore where
  db : Db
  unmatched : Collection UnmatchedPayment (String × String × Nat) UnmatchedPayment.key

/-- The fields of a school the poller reads. -/
structure School where
  schoolId : String
  stellarAddress : String
  receivedOnRetiredAddress : Bool
  deriving DecidableEq, Repr

/-- Why `processTransaction` recorded no payment. -/
inductive SkipReason
  | duplicate
  | invalidPayment
  | amountLimitExceeded
  | studentNotFound
  | staleLock
  deriving DecidableEq, Repr

/-- How `processTransaction` ends. -/
inductive PollResult
  | threw
  | skipped (reason : SkipReason)
  | processed (row : Payment)
  deriving DecidableEq, Repr

/-- What `processTransaction` learns on the way: the fence of the school's sync lock,
the verdict of the fraud checks, and whether the ledger is deep enough. -/
structure PollContext where
  fencingToken : Nat
  currentFence : Option Nat
  isSuspicious : Bool
  suspicionReason : Option String
  isConfirmed : Bool
  now : Nat
  deriving DecidableEq, Repr

/-- Keep an unattributed payment; recording it again changes nothing. -/
def recordUnmatchedPayment (store : PollStore) (schoolId : String) (tx : Transaction)
    (payOp : Operation) (memo memoType : String) (asset : Option Asset) (reason : String) :
    PollStore :=
  let entry : UnmatchedPayment :=
    { schoolId := schoolId
      txHash := tx.hash
      opIndex := 0
      amount := payOp.amount
      assetCode := match asset with
        | some asset => some asset.assetCode
        | none => if payOp.assetType = some .native then some "XLM"
            else payOp.assetCode.filter (· ≠ "")
      memo := memo
      memoType := memoType
      senderAddress := payOp.fromAddress.filter (· ≠ "")
      ledger := tx.ledger
      reason := reason }
  match store.unmatched.insert entry with
  | none => store
  | some unmatched => { store with unmatched := unmatched }

/-- Process one transaction of a school's wallet. -/
def processTransaction (config : IngestConfig) (store : PollStore) (tx : Transaction)
    (school : School) (ctx : PollContext) : PollResult × PollStore :=
  match store.db.findPaymentByTx school.schoolId tx.hash with
  | some _ => (.skipped .duplicate, store)
  | none =>
  match extractValidPayment config.sdk config.accepted tx school.stellarAddress with
  | .error _ => (.threw, store)
  | .ok none => (.skipped .invalidPayment, store)
  | .ok (some valid) =>
  -- `payOp.amount` throws when there is no `payOp`, and so does normalising no amount
  match valid.payOp, valid.payOp.bind (·.amount) with
  | some payOp, some paymentAmount =>
    -- `asset?.code`: an asset has no `code`, so the limits are those of `XLM`
    match validatePaymentAmount config.limits (some paymentAmount) school.schoolId none with
    | some _ => (.skipped .amountLimitExceeded, store)
    | none =>
    match store.db.findStudent school.schoolId valid.memo with
    | none => (.skipped .studentNotFound, recordUnmatchedPayment store school.schoolId tx payOp
        valid.memo valid.memoType valid.asset "student_not_found")
    | some student =>
    if ctx.currentFence.isSome ∧ ctx.currentFence ≠ some ctx.fencingToken then
      (.skipped .staleLock, store)
    else
    -- the arguments are passed as one object
    match classifyFeePayment .object .nullish with
    | .error _ => (.threw, store)
    | .ok classification =>
      let payment : PolledPayment :=
        { schoolId := school.schoolId
          memo := valid.memo
          hash := tx.hash
          amount := paymentAmount
          feeAmount := student.feeAmount
          feeValidationStatus := classification.status
          excessAmount := classification.excessAmount
          senderAddress := payOp.fromAddress.filter (· ≠ "")
          isSuspicious := ctx.isSuspicious
          suspicionReason := ctx.suspicionReason
          isConfirmed := ctx.isConfirmed
          receivedOnRetiredAddress := school.receivedOnRetiredAddress
          ledger := tx.ledger
          now := ctx.now }
      match recordPolledPayment store.db payment with
      | none => (.skipped .duplicate, store)
      | some db => (.processed payment.paymentData, { store with db := db })
  | _, _ => (.threw, store)

/-- The poller never changes the store: a transaction it cannot dismiss makes it throw. -/
theorem processTransaction_store (config : IngestConfig) (store : PollStore) (tx : Transaction)
    (school : School) (ctx : PollContext) :
    (processTransaction config store tx school ctx).2 = store := by
  unfold processTransaction
  split
  · rfl
  split
  · rfl
  · rfl
  rename_i valid hvalid
  rw [extractValidPayment_payOp hvalid]

/-! ## verifyPayment on a transaction -/

/-- `recordPayment` refuses only a row whose key is taken. -/
structure RecordPaymentAccepts (recordPayment : Db → Payment → Except RecordError Db) : Prop
    extends RecordPaymentSpec recordPayment where
  accepts : ∀ {db : Db} {data : Payment}, (∀ p ∈ db.payments.docs, p.key ≠ data.key) →
    ∃ db', recordPayment db data = .ok db'

theorem savePayment_accepts : RecordPaymentAccepts savePayment where
  toRecordPaymentSpec := savePayment_spec
  accepts {db data} h := by
    obtain ⟨payments, hins⟩ := db.payments.insert_isSome h
    simp [savePayment, hins]

section
variable (recordPayment : Db → Payment → Except RecordError Db) (config : IngestConfig)

/-- `verifyPayment` on a reported transaction, with what `verifyTransaction` makes of it. -/
def verifyReported (db : Db) (tx : Transaction) (school : School) (req : VerifyRequest) :
    VerifyResponse × Db :=
  verifyPayment recordPayment db req <|
    match verifyTransaction config db tx school.stellarAddress req.schoolId with
    | .ok result => .ok (some result)
    | .error e => .error e.code

/-- What `verifyPayment` asks of a transaction, a store and the two locks. -/
structure VerifyCredits (db : Db) (tx : Transaction) (school : School) (req : VerifyRequest) :
    Prop where
  verifiable : Verifiable config tx school.stellarAddress req.schoolId
  student : ∀ memo, canonicalMemo tx = some memo → (db.findStudent req.schoolId memo).isSome
  verifyLock : req.verifyLockFree = true
  studentLock : req.studentLockFree = true

/-- No row of the transaction is stored, under either of its hashes. -/
def Unrecorded (db : Db) (schoolId : String) (tx : Transaction) : Prop :=
  ∀ p ∈ db.payments.docs, p.schoolId = schoolId → p.txHash ∉ tx.hashes

variable {recordPayment config} {db : Db} {tx : Transaction} {school : School} {req : VerifyRequest}

theorem findRecorded_unrecorded (hnew : Unrecorded db req.schoolId tx)
    (hhash : req.normalizedHash ∈ tx.hashes) : findRecorded db req = none := by
  refine db.payments.findOne_eq_none.mpr fun p hp => ?_
  by_contra hsat
  simp only [Bool.not_eq_false, Bool.and_eq_true, beq_iff_eq] at hsat
  exact hnew p hp hsat.2.1.1 (hsat.2.1.2 ▸ hhash)

/-- The section under the lock stores its row or no row. -/
theorem recordVerified_rows (hrec : RecordPaymentSpec recordPayment) (db : Db) (req : VerifyRequest)
    (result : VerifiedTransaction) (student : Student) (studentStrId : String) :
    (recordVerified recordPayment db req result student studentStrId).2.payments = db.payments ∨
      (recordVerified recordPayment db req result student studentStrId).2.payments.docs =
        db.payments.docs ++ [verifiedPayment db req result student studentStrId] := by
  unfold recordVerified
  dsimp only
  split
  · split <;> exact Or.inl rfl
  · exact Or.inl rfl
  · rename_i db' hok
    obtain ⟨payments, hins, hdb⟩ := hrec.stores hok
    rw [updateStudentBalance_payments, hdb]
    exact Or.inr (db.payments.insert_docs hins)

/-- `verifyPayment` leaves the rows alone, or it adds one for a transaction that has all it
takes. -/
theorem verifyReported_rows (hrec : RecordPaymentSpec recordPayment) (config : IngestConfig)
    (db : Db) (tx : Transaction) (school : School) (req : VerifyRequest) :
    (verifyReported recordPayment config db tx school req).2.payments = db.payments ∨
      (VerifyCredits config db tx school req ∧ ∃ row, row.txHash = tx.hash ∧
        (verifyReported recordPayment config db tx school req).2.payments.docs =
          db.payments.docs ++ [row]) := by
  unfold verifyReported verifyPayment
  split
  · exact Or.inl rfl
  split
  · exact Or.inl rfl
  rename_i hlock
  cases hv : verifyTransaction config db tx school.stellarAddress req.schoolId with
  | error e => dsimp only; split <;> exact Or.inl rfl
  | ok r =>
    obtain ⟨hver, memo, hmemo, rfl⟩ := verifyTransaction_ok_iff.mp hv
    dsimp only
    rw [ite_self]
    split
    · exact Or.inl rfl
    rename_i student hstudent
    split
    · exact Or.inl (expireIntent_payments ..)
    rename_i hslock
    have hcredits : VerifyCredits config db tx school req := by
      refine ⟨hver, fun memo' hmemo' => ?_, by simpa using hlock, by simpa using hslock⟩
      obtain rfl : memo = memo' := Option.some.inj (hmemo.symm.trans hmemo')
      rw [hstudent]; rfl
    rw [← expireIntent_payments db req.schoolId memo req.now]
    rcases recordVerified_rows hrec (expireIntent db req.schoolId memo req.now) req _ student memo
      with hsame | hdocs
    · exact Or.inl hsame
    · exact Or.inr ⟨hcredits, _, rfl, hdocs⟩

/-- With its key free, the row is stored and the balance leaves the rows alone. -/
theorem recordVerified_docs (hrec : RecordPaymentAccepts recordPayment)
    {result : VerifiedTransaction} {student : Student} {studentStrId : String}
    (hfree : ∀ p ∈ db.payments.docs,
      p.key ≠ (verifiedPayment db req result student studentStrId).key) :
    (recordVerified recordPayment db req result student studentStrId).2.payments.docs =
      db.payments.docs ++ [verifiedPayment db req result student studentStrId] := by
  obtain ⟨db', hok⟩ := hrec.accepts hfree
  obtain ⟨payments, hins, hdb⟩ := hrec.stores hok
  unfold recordVerified
  simp only [hok, updateStudentBalance_payments]
  rw [hdb]
  exact db.payments.insert_docs hins

/-- A transaction that has all it takes is credited, in one row. -/
theorem verifyReported_credits (hrec : RecordPaymentAccepts recordPayment)
    (hnew : Unrecorded db req.schoolId tx) (hhash : req.normalizedHash ∈ tx.hashes)
    (h : VerifyCredits config db tx school req) :
    ∃ row, row.txHash = tx.hash ∧ row.schoolId = req.schoolId ∧
      (verifyReported recordPayment config db tx school req).2.payments.docs =
        db.payments.docs ++ [row] := by
  obtain ⟨memo, hmemo⟩ := Option.isSome_iff_exists.mp h.verifiable.memo
  obtain ⟨student, hstudent⟩ := Option.isSome_iff_exists.mp (h.student memo hmemo)
  obtain ⟨r, hv, hhashr, hmemor, hstudentr⟩ : ∃ r,
      verifyTransaction config db tx school.stellarAddress req.schoolId = .ok r ∧
        r.hash = tx.hash ∧ r.memo = memo ∧ r.studentId = memo :=
    ⟨_, verifyTransaction_ok_iff.mpr ⟨h.verifiable, memo, hmemo, rfl⟩, rfl, rfl, rfl⟩
  have hfree : ∀ p ∈ (expireIntent db req.schoolId memo req.now).payments.docs,
      p.key ≠ (verifiedPayment (expireIntent db req.schoolId memo req.now) req r student memo).key := by
    intro p hp hkey
    rw [expireIntent_payments] at hp
    have hsch : p.schoolId = req.schoolId := congrArg Prod.fst hkey
    have htx : p.txHash = r.hash := congrArg (fun k => k.2.1) hkey
    exact hnew p hp hsch (htx.trans hhashr ▸ List.mem_cons_self ..)
  refine ⟨verifiedPayment (expireIntent db req.schoolId memo req.now) req r student memo, hhashr, rfl,
    ?_⟩
  have hdocs := recordVerified_docs hrec hfree
  rw [expireIntent_payments] at hdocs
  unfold verifyReported verifyPayment
  rw [findRecorded_unrecorded hnew hhash, hv]
  dsimp only
  rw [hmemor, hstudentr, ite_self, hstudent, h.verifyLock, h.studentLock]
  exact hdocs

end

/-! ## The two paths compared -/

/-- The rows a path added. -/
def addedRows (before after : Db) : List Payment :=
  after.payments.docs.filter (· ∉ before.payments.docs)

/-- Both paths credited the same: one student, one total, a row for each creditable
operation under its own index, amounts within the limits of their own assets, and
the same fee status. -/
structure SameCredit (config : IngestConfig) (tx : Transaction) (school : School)
    (verified polled : List Payment) : Prop where
  student : ∃ studentId, ∀ p ∈ verified ++ polled, p.studentId = studentId
  total : (verified.map (·.amount)).sum = (polled.map (·.amount)).sum
  perOperation : ∀ rows ∈ [verified, polled], (rows.map (·.opIndex)).Perm
    ((creditable config.accepted (operationsTo tx school.stellarAddress)).map (·.opIndex))
  limits : ∀ o ∈ creditable config.accepted (operationsTo tx school.stellarAddress),
    validatePaymentAmount config.limits o.amount school.schoolId (some o.asset.assetCode) = none
  feeStatus : ∃ status, ∀ p ∈ verified ++ polled, p.feeValidationStatus = status

/-- Both paths refused the transaction, or both credited the same. -/
def IngestionAgrees (config : IngestConfig) (tx : Transaction) (school : School)
    (before verified polled : Db) : Prop :=
  (addedRows before verified = [] ∧ addedRows before polled = []) ∨
  (addedRows before verified ≠ [] ∧ addedRows before polled ≠ [] ∧
    SameCredit config tx school (addedRows before verified) (addedRows before polled))

theorem addedRows_same {before after : Db} (h : after.payments = before.payments) :
    addedRows before after = [] := by
  simp [addedRows, h]

/-- **The paths agree exactly on what `verifyPayment` refuses.** -/
theorem ingestion_agrees_iff_verify_refuses
    {recordPayment : Db → Payment → Except RecordError Db}
    (hrec : RecordPaymentAccepts recordPayment) (config : IngestConfig) (store : PollStore)
    (tx : Transaction) (school : School) (req : VerifyRequest) (ctx : PollContext)
    (hschool : req.schoolId = school.schoolId) (hhash : req.normalizedHash ∈ tx.hashes)
    (hnew : Unrecorded store.db school.schoolId tx) :
    IngestionAgrees config tx school store.db
        (verifyReported recordPayment config store.db tx school req).2
        (processTransaction config store tx school ctx).2.db ↔
      ¬ VerifyCredits config store.db tx school req := by
  rw [← hschool] at hnew
  have hpolled : addedRows store.db (processTransaction config store tx school ctx).2.db = [] := by
    rw [processTransaction_store]
    exact addedRows_same rfl
  constructor
  · rintro (⟨hnone, -⟩ | ⟨-, hsome, -⟩) hcredits
    · obtain ⟨row, htx, hsch, hdocs⟩ := verifyReported_credits hrec hnew hhash hcredits
      have hmem : row ∈ addedRows store.db
          (verifyReported recordPayment config store.db tx school req).2 := by
        refine List.mem_filter.mpr ⟨hdocs ▸ List.mem_append_right _ (List.mem_singleton_self _), ?_⟩
        simp only [decide_eq_true_eq]
        intro hold
        exact hnew row hold hsch (htx ▸ List.mem_cons_self ..)
      rw [hnone] at hmem
      cases hmem
    · exact hsome hpolled
  · intro hrefuses
    refine Or.inl ⟨addedRows_same ?_, hpolled⟩
    rcases verifyReported_rows hrec.toRecordPaymentSpec config store.db tx school req with
      hsame | ⟨hcredits, -⟩
    · exact hsame
    · exact absurd hcredits hrefuses

/-- A payment of 100 XLM with the memo of a student who has paid before. -/
def plainPayment : Transaction where
  hash := "tx2"
  successful := some true
  memoType := some "text"
  memo := some "STU001"
  innerHash := none
  ledger := some 7
  operations := [
    { type := .payment, fromAddress := some "GPARENT", toAddress := some "GSCHOOL"
      assetType := some .native, assetCode := none, assetIssuer := none, amount := some 1000000000
      destinationAssetType := none, destinationAssetCode := none, destinationAssetIssuer := none
      destinationAmount := none }]

/-- The school of the sample store. -/
def sampleSchool : School := ⟨"SCH", "GSCHOOL", false⟩

/-- A deployment that accepts XLM between 0.01 and 100000, with an SDK as the code expects it. -/
def xlmConfig : IngestConfig := ⟨.xlm, ⟨fun _ => none, none, ⟨100000, 1000000000000⟩⟩, ⟨some id⟩⟩

theorem xlmConfig_documented : xlmConfig.sdk.Documented := ⟨id, rfl, fun _ _ _ => rfl⟩

def sampleStore : PollStore := ⟨paidDb, Collection.empty⟩

def sampleRequest : VerifyRequest := ⟨"SCH", "tx2", true, true, 5⟩

def sampleContext : PollContext := ⟨3, some 3, false, none, true, 5⟩

theorem plainPayment_unrecorded : Unrecorded paidDb "SCH" plainPayment := by
  intro p hp _
  obtain rfl : p = paidRow := List.mem_singleton.mp hp
  decide

/-- The same payment, included in a ledger but failed. -/
def failedPayment : Transaction := { plainPayment with successful := some false }

theorem ingestion_agrees_on_failed :
    IngestionAgrees xlmConfig failedPayment sampleSchool paidDb
      (verifyReported savePayment xlmConfig paidDb failedPayment sampleSchool sampleRequest).2
      (processTransaction xlmConfig sampleStore failedPayment sampleSchool sampleContext).2.db :=
  (ingestion_agrees_iff_verify_refuses savePayment_accepts xlmConfig sampleStore failedPayment
    sampleSchool sampleRequest sampleContext rfl (by decide) plainPayment_unrecorded).mpr
    fun h => h.verifiable.notFailed rfl

/-- `verifyPayment` credits the plain payment and the poller throws on it. -/
theorem plain_payment_splits_paths :
    ¬ ∀ (config : IngestConfig) (store : PollStore) (tx : Transaction) (school : School)
      (req : VerifyRequest) (ctx : PollContext), config.sdk.Documented →
      req.schoolId = school.schoolId → req.normalizedHash ∈ tx.hashes →
      req.verifyLockFree = true → req.studentLockFree = true →
      ctx.currentFence = some ctx.fencingToken → ctx.isSuspicious = false →
      Unrecorded store.db school.schoolId tx →
      IngestionAgrees config tx school store.db
        (verifyReported savePayment config store.db tx school req).2
        (processTransaction config store tx school ctx).2.db := by
  intro h
  have hagree := h xlmConfig sampleStore plainPayment sampleSchool sampleRequest sampleContext
    xlmConfig_documented rfl (by decide) rfl rfl rfl rfl plainPayment_unrecorded
  have hverified : addedRows paidDb
      (verifyReported savePayment xlmConfig paidDb plainPayment sampleSchool sampleRequest).2 ≠ [] := by
    decide
  have hpolled : addedRows paidDb
      (processTransaction xlmConfig sampleStore plainPayment sampleSchool sampleContext).2.db = [] :=
    by decide
  rcases hagree with ⟨hnone, -⟩ | ⟨-, hsome, -⟩
  · exact hverified hnone
  · exact hsome hpolled

end StellarEduPay
