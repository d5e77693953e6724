import StellarEduPay.StudentBalance

/-! # Recording a payment (`controllers/paymentController.js`, `services/transactionPollingService.js`)

Three paths store payment rows and recompute the student's balance after it:
`verifyPayment` for a transaction hash a parent reports, `submitTransaction` for
a signed transaction sent through the service, and the poller's
`processTransaction`, modelled here from the point where it opens its database
transaction.  What each learned from Horizon, and whether a lock was free, are
arguments.

`recordPayment` is not part of the sources; what `verifyPayment` relies on is
that it stores the row it is given or throws (`RecordPaymentSpec`).
-/
namespace StellarEduPay

/-! ## Storing a row -/

/-- Why a row was not stored. -/
inductive RecordError
  | duplicateTx
  | other (message : String)
  deriving DecidableEq, Repr

/-- Store a row with its outbox event; a taken key is `DUPLICATE_TX`. -/
def savePayment (db : Db) (data : Payment) : Except RecordError Db :=
  match db.payments.insert data with
  | none => .error .duplicateTx
  | some payments =>
    .ok { db with payments := payments, outbox := db.outbox ++ [.paymentSaved data] }

/-- What is documented of `recordPayment`: it persists the row, enforces uniqueness
of the key, and touches nothing else but the outbox. -/
structure RecordPaymentSpec (recordPayment : Db → Payment → Except RecordError Db) : Prop where
  stores : ∀ {db : Db} {data : Payment} {db' : Db}, recordPayment db data = .ok db' →
    ∃ payments, db.payments.insert data = some payments ∧
      db' = { db with payments := payments, outbox := db'.outbox }

theorem savePayment_spec : RecordPaymentSpec savePayment where
  stores {db data db'} h := by
    unfold savePayment at h
    split at h
    · cases h
    · cases h
      exact ⟨_, ‹_›, rfl⟩

/-! ## verifyPayment -/

/-- The `code` of an error `verifyTransaction` throws; a `TypeError` has none. -/
inductive VerifyErrorCode
  | notFound
  | horizonUnavailable
  | txFailed
  | missingMemo
  | unsupportedMemoType
  | invalidDestination
  | unsupportedAsset
  | invalidAmount
  | amountTooLow
  | amountTooHigh
  | underpaid
  | uncoded
  deriving DecidableEq, Repr

/-- `PERMANENT_FAIL_CODES`: refused for good rather than queued for another try. -/
def permanentFailCodes : List VerifyErrorCode :=
  [.txFailed, .missingMemo, .invalidDestination, .unsupportedAsset, .amountTooLow, .amountTooHigh,
    .underpaid]

/-- The fields of `verifyTransaction`'s result that `verifyPayment` reads. -/
structure VerifiedTransaction where
  hash : String
  memo : String
  studentId : String
  amount : Int
  feeAmount : Option Int
  senderAddress : Option String
  ledger : Option Nat
  deriving DecidableEq, Repr

/-- A request to verify a transaction hash, with the outcome of the two lock
acquisitions and the time. -/
structure VerifyRequest where
  schoolId : String
  normalizedHash : String
  verifyLockFree : Bool
  studentLockFree : Bool
  now : Nat
  deriving DecidableEq, Repr

/-- How `verifyPayment` answers. -/
inductive VerifyResponse
  | cached (existing : Payment)
  | syncInProgress
  | refused (code : VerifyErrorCode)
  | queuedForRetry (code : VerifyErrorCode)
  | notFound
  | studentNotFound
  | error (e : RecordError)
  | verified (row : Payment)
  deriving DecidableEq, Repr

/-- Mark an intent whose time is over as expired. -/
def expireIntent (db : Db) (schoolId memo : String) (now : Nat) : Db :=
  match db.paymentIntents.findOne fun i => i.memo == memo && i.schoolId == schoolId with
  | none => db
  | some intent =>
    if intent.expiresAt < now then
      { db with paymentIntents := db.paymentIntents.save { intent with status := .expired } }
    else db

/-- The row `verifyPayment` records for a verified transaction. -/
def verifiedPayment (db : Db) (req : VerifyRequest) (result : VerifiedTransaction)
    (student : Student) (studentStrId : String) : Payment :=
  let prevTotal := sumCanonicalPayments db req.schoolId studentStrId none
  let classification := classify (prevTotal + result.amount) student.feeAmount
  { Payment.withDefaults req.schoolId studentStrId result.hash result.amount req.now with
    feeAmount := some ((result.feeAmount.filter (· ≠ 0)).getD student.feeAmount)
    feeValidationStatus := classification.status
    excessAmount := classification.excessAmount
    status := .success
    memo := some result.memo
    senderAddress := result.senderAddress
    ledgerSequence := result.ledger }

section Verify
variable (recordPayment : Db → Payment → Except RecordError Db)

/-- `Payment.findOne({ schoolId, txHash, status: { $ne: 'REJECTED' } })`. -/
def findRecorded (db : Db) (req : VerifyRequest) : Option Payment :=
  db.findPayment fun p => p.schoolId == req.schoolId && p.txHash == req.normalizedHash &&
    p.status != .rejected

/-- The section of `verifyPayment` under the student's balance lock. -/
def recordVerified (db : Db) (req : VerifyRequest) (result : VerifiedTransaction)
    (student : Student) (studentStrId : String) : VerifyResponse × Db :=
  let row := verifiedPayment db req result student studentStrId
  match recordPayment db row with
  | .error .duplicateTx =>
    -- another path recorded the transaction first; answer with its row
    match findRecorded db req with
    | some cached => (.cached cached, db)
    | none => (.error .duplicateTx, db)
  | .error e => (.error e, db)
  | .ok db => (.verified row, (updateStudentBalance db req.schoolId studentStrId).2)

/-- Verify a reported transaction hash and credit it.  `outcome` is what
`verifyTransaction` did. -/
def verifyPayment (db : Db) (req : VerifyRequest)
    (outcome : Except VerifyErrorCode (Option VerifiedTransaction)) : VerifyResponse × Db :=
  match findRecorded db req with
  | some existing => (.cached existing, db)
  | none =>
    if !req.verifyLockFree then (.syncInProgress, db)
    else match outcome with
    | .error code =>
      if code ∈ permanentFailCodes then (.refused code, db) else (.queuedForRetry code, db)
    | .ok none => (.notFound, db)
    | .ok (some result) =>
      let studentStrId := if result.studentId = "" then result.memo else result.studentId
      match db.findStudent req.schoolId studentStrId with
      | none => (.studentNotFound, db)
      | some student =>
        let db := expireIntent db req.schoolId result.memo req.now
        if !req.studentLockFree then (.syncInProgress, db)
        else recordVerified recordPayment db req result student studentStrId

end Verify

/-! ## submitTransaction -/

/-- What Horizon answered to a submission. -/
inductive HorizonSubmission
  | threw (reason : String)
  | unsuccessful
  | successful (ledger : Nat)
  deriving DecidableEq, Repr

/-- A signed transaction, reduced to its hash and memo, with an optional intent. -/
structure SubmitRequest where
  schoolId : String
  normalizedHash : String
  memo : Option String
  paymentIntentId : Option String
  deriving DecidableEq, Repr

/-- How `submitTransaction` answers. -/
inductive SubmitResponse
  | missingMemo
  | intentNotFound
  | intentNotPending (status : IntentStatus)
  | studentNotFound
  | validationError (path : String)
  | failed (reason : String)
  | success (row : Payment)
  deriving DecidableEq, Repr

/-- The newest of some rows, the earliest stored one among equals
(`.sort({ createdAt: -1 })`). -/
def newest : List Payment → Option Payment
  | [] => none
  | p :: ps =>
    match newest ps with
    | none => some p
    | some q => if p.createdAt < q.createdAt then some q else some p

/-- The rows still awaiting a transaction under a memo. -/
def pendingByMemo (db : Db) (schoolId memo : String) : List Payment :=
  db.payments.docs.filter fun p =>
    p.live && p.schoolId == schoolId && p.memo == some memo && p.status == .pending

/-- The `PENDING` row a submission is for: the intent's, or the newest with the
memo.  `.error` is the answer of a refused request. -/
def matchPendingRow (db : Db) (req : SubmitRequest) (memo : String) :
    Except SubmitResponse (Option Payment) :=
  match req.paymentIntentId.filter (· ≠ "") with
  | none => .ok (newest (pendingByMemo db req.schoolId memo))
  | some intentId =>
    match db.paymentIntents.findOne fun i => i.id == intentId && i.schoolId == req.schoolId with
    | none => .error .intentNotFound
    | some intent =>
      if intent.status ≠ .pending then .error (.intentNotPending intent.status)
      else .ok (db.findPayment fun p => p.schoolId == req.schoolId &&
        p.studentId == intent.studentId && p.memo == some intent.memo && p.status == .pending)

/-- Store the new status of a row. -/
def saveRow (db : Db) (row : Payment) : Db := { db with payments := db.payments.save row }

/-- The row after `submitTransaction` stored its hash. -/
def submittedRow (row : Payment) (hash : String) : Payment :=
  { row with transactionHash := some hash, status := .submitted }

/-- Send a signed transaction to the network and record the outcome. -/
def submitTransaction (db : Db) (req : SubmitRequest) (horizon : HorizonSubmission) :
    SubmitResponse × Db :=
  match req.memo.filter (· ≠ "") with
  | none => (.missingMemo, db)
  | some memo =>
    match matchPendingRow db req memo with
    | .error response => (response, db)
    | .ok none =>
      match db.findStudent req.schoolId memo with
      | none => (.studentNotFound, db)
      -- a fresh `Payment` has no `txHash`, which the schema requires, so `save` throws
      | some _ => (.validationError "txHash", db)
    | .ok (some row) =>
      let row := submittedRow row req.normalizedHash
      let db := saveRow db row
      match horizon with
      | .threw reason =>
        (.failed reason, saveRow db { row with status := .failed, suspicionReason := some reason })
      | .unsuccessful =>
        (.failed "TX_FAILED", saveRow db { row with
          status := .failed
          suspicionReason := some "Transaction was included in ledger but failed on-chain" })
      | .successful ledger =>
        let row := { row with status := .success, ledgerSequence := some ledger }
        (.success row, (updateStudentBalance (saveRow db row) req.schoolId row.studentId).2)

/-! ## processTransaction -/

/-- What `processTransaction` has established about a transaction when it opens
its database transaction. -/
structure PolledPayment where
  schoolId : String
  memo : String
  hash : String
  amount : Int
  feeAmount : Int
  feeValidationStatus : FeeStatus
  excessAmount : Int
  senderAddress : Option String
  isSuspicious : Bool
  suspicionReason : Option String
  isConfirmed : Bool
  receivedOnRetiredAddress : Bool
  ledger : Option Nat
  now : Nat
  deriving DecidableEq, Repr

/-- `paymentData`. -/
def PolledPayment.paymentData (d : PolledPayment) : Payment :=
  { Payment.withDefaults d.schoolId d.memo d.hash d.amount d.now with
    transactionHash := some d.hash
    feeAmount := some d.feeAmount
    feeValidationStatus := d.feeValidationStatus
    excessAmount := d.excessAmount
    status := if d.isSuspicious then .failed else if d.isConfirmed then .success else .pending
    memo := some d.memo
    senderAddress := d.senderAddress
    isSuspicious := d.isSuspicious
    suspicionReason := d.suspicionReason
    receivedOnRetiredAddress := d.receivedOnRetiredAddress
    ledgerSequence := d.ledger }

/-- The database transaction of `processTransaction`: the row, and the balance when
the row counts.  `none` is a duplicate. -/
def recordPolledPayment (db : Db) (d : PolledPayment) : Option Db :=
  match db.payments.insert d.paymentData with
  | none => none
  | some payments =>
    let db := { db with payments := payments }
    if d.isConfirmed && !d.isSuspicious then
      some (updateStudentBalance db d.schoolId d.memo).2
    else some db

/-! ## Every recorder leaves the balances coherent -/

section Coherence
variable {db : Db}

@[simp] theorem expireIntent_payments (db : Db) (schoolId memo : String) (now : Nat) :
    (expireIntent db schoolId memo now).payments = db.payments := by
  unfold expireIntent
  split
  · rfl
  · split <;> rfl

@[simp] theorem expireIntent_students (db : Db) (schoolId memo : String) (now : Nat) :
    (expireIntent db schoolId memo now).students = db.students := by
  unfold expireIntent
  split
  · rfl
  · split <;> rfl

/-- Coherence is a matter of payments and students only. -/
theorem BalanceCoherent.congr {db' : Db} (h : BalanceCoherent db)
    (hp : db'.payments = db.payments) (hs : db'.students = db.students) : BalanceCoherent db' := by
  intro s hmem hl
  rw [hs] at hmem
  exact (h s hmem hl).congr (by simp only [sumCanonicalPayments, hp])

section Verify
variable {recordPayment : Db → Payment → Except RecordError Db}

@[simp] theorem verifiedPayment_schoolId (db : Db) (req : VerifyRequest)
    (result : VerifiedTransaction) (student : Student) (studentStrId : String) :
    (verifiedPayment db req result student studentStrId).schoolId = req.schoolId := rfl

@[simp] theorem verifiedPayment_studentId (db : Db) (req : VerifyRequest)
    (result : VerifiedTransaction) (student : Student) (studentStrId : String) :
    (verifiedPayment db req result student studentStrId).studentId = studentStrId := rfl

theorem recordVerified_coherent (hrec : RecordPaymentSpec recordPayment)
    (hco : BalanceCoherent db) (req : VerifyRequest) (result : VerifiedTransaction)
    (student : Student) (studentStrId : String) :
    BalanceCoherent (recordVerified recordPayment db req result student studentStrId).2 := by
  unfold recordVerified
  dsimp only
  split
  · split <;> exact hco
  · exact hco
  · rename_i db' hr
    obtain ⟨payments, hins, hdb⟩ := hrec.stores hr
    have hstored := coherent_insert_update hco hins
    rw [verifiedPayment_schoolId, verifiedPayment_studentId] at hstored
    refine coherent_updateStudentBalance_iff.mpr fun s hs hl hne => ?_
    rw [hdb] at hs ⊢
    exact (coherent_updateStudentBalance_iff.mp hstored s hs hl hne).congr rfl

theorem verifyPayment_coherent (hrec : RecordPaymentSpec recordPayment)
    (hco : BalanceCoherent db) (req : VerifyRequest)
    (outcome : Except VerifyErrorCode (Option VerifiedTransaction)) :
    BalanceCoherent (verifyPayment recordPayment db req outcome).2 := by
  have expired : ∀ memo, BalanceCoherent (expireIntent db req.schoolId memo req.now) :=
    fun memo => hco.congr (expireIntent_payments ..) (expireIntent_students ..)
  unfold verifyPayment
  split
  · exact hco
  split
  · exact hco
  split
  · split <;> exact hco
  · exact hco
  dsimp only
  split
  · exact hco
  split
  · exact expired _
  · exact recordVerified_coherent hrec (expired _) _ _ _ _

end Verify

theorem newest_mem {p : Payment} : ∀ {rows : List Payment}, newest rows = some p → p ∈ rows
  | [], h => by cases h
  | q :: rows, h => by
      unfold newest at h
      split at h
      · cases h; exact List.mem_cons_self ..
      · rename_i newer hrest
        split at h <;> cases h
        · exact List.mem_cons_of_mem _ (newest_mem hrest)
        · exact List.mem_cons_self ..

theorem matchPendingRow_ok {req : SubmitRequest} {memo : String} {row : Payment}
    (h : matchPendingRow db req memo = .ok (some row)) :
    row ∈ db.payments.docs ∧ row.schoolId = req.schoolId ∧ row.status = .pending := by
  unfold matchPendingRow at h
  split at h
  · have := newest_mem (Except.ok.inj h)
    simp only [pendingByMemo, List.mem_filter, Bool.and_eq_true, beq_iff_eq] at this
    exact ⟨this.1, this.2.1.1.2, this.2.2⟩
  · split at h
    · cases h
    · split at h
      · cases h
      · have hf := Except.ok.inj h
        have := (Db.findPayment_sat hf).2
        simp only [Bool.and_eq_true, beq_iff_eq] at this
        exact ⟨Db.findPayment_mem hf, this.1.1.1, this.2⟩

theorem credited_of_status_ne {p : Payment} (h : p.status ≠ .success) : p.credited = 0 := by
  simp [Payment.credited, Payment.counted, h]

/-- A row that does not count may move to another status that does not count. -/
theorem coherent_saveRow_uncounted {row row' : Payment} (hco : BalanceCoherent db)
    (hrow : row ∈ db.payments.docs) (hkey : row'.key = row.key) (howner : row'.owner = row.owner)
    (h : row.status ≠ .success) (h' : row'.status ≠ .success) :
    BalanceCoherent (saveRow db row') :=
  (coherent_save_iff hco hrow hkey howner).mpr
    (Or.inr ((credited_of_status_ne h').trans (credited_of_status_ne h).symm))

theorem submitTransaction_coherent (hco : BalanceCoherent db) (req : SubmitRequest)
    (horizon : HorizonSubmission) : BalanceCoherent (submitTransaction db req horizon).2 := by
  unfold submitTransaction
  split
  · exact hco
  split
  · exact hco
  · split <;> exact hco
  rename_i row hmatch
  obtain ⟨hrow, hschool, hst⟩ := matchPendingRow_ok hmatch
  have hsub : BalanceCoherent (saveRow db (submittedRow row req.normalizedHash)) :=
    coherent_saveRow_uncounted hco hrow rfl rfl (by simp [hst]) (by simp [submittedRow])
  have hmem : submittedRow row req.normalizedHash ∈
      (saveRow db (submittedRow row req.normalizedHash)).payments.docs :=
    db.payments.mem_save.mpr (Or.inl ⟨rfl, row, hrow, rfl⟩)
  cases horizon with
  | threw reason =>
    exact coherent_saveRow_uncounted hsub hmem rfl rfl (by simp [submittedRow]) (by simp)
  | unsuccessful =>
    exact coherent_saveRow_uncounted hsub hmem rfl rfl (by simp [submittedRow]) (by simp)
  | successful ledger =>
    refine (coherent_save_update_iff hsub hmem ?_ ?_ _ _).mpr (Or.inl (Prod.ext hschool rfl))
    · rfl
    · rfl

@[simp] theorem PolledPayment.paymentData_schoolId (d : PolledPayment) :
    d.paymentData.schoolId = d.schoolId := rfl

@[simp] theorem PolledPayment.paymentData_studentId (d : PolledPayment) :
    d.paymentData.studentId = d.memo := rfl

theorem recordPolledPayment_coherent (hco : BalanceCoherent db) {d : PolledPayment} {db' : Db}
    (h : recordPolledPayment db d = some db') : BalanceCoherent db' := by
  unfold recordPolledPayment at h
  split at h
  · cases h
  rename_i payments hins
  dsimp only at h
  split at h
  · cases h
    have hstored := coherent_insert_update hco hins
    rwa [PolledPayment.paymentData_schoolId, PolledPayment.paymentData_studentId] at hstored
  · rename_i hc
    cases h
    refine coherent_insert_uncounted hco hins ?_
    simp only [PolledPayment.paymentData, Payment.counted]
    cases hs : d.isSuspicious <;> cases hf : d.isConfirmed <;> simp_all

end Coherence

end StellarEduPay
