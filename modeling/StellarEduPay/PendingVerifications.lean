import StellarEduPay.Collection
import StellarEduPay.Runs

/-! # Pending verifications (`services/retryService.js`)

A transaction that could not be verified is queued, and every replica works the queue off
in batches: it finds the items that are due, marks each in turn as `processing`, handles
it and writes the outcome.  The find is a snapshot, and both the mark and the outcome are
updates by `_id` that look at nothing the store has become since.  Each access of the store
is one step here, so a replica may crash between any two, and any number of batches
overlap.
-/
namespace StellarEduPay
open Runs Function

/-! ## Items -/

inductive VerificationStatus
  | pending
  | processing
  | resolved
  | deadLetter
  deriving DecidableEq, Repr

def VerificationStatus.terminal : VerificationStatus → Bool
  | .resolved | .deadLetter => true
  | .pending | .processing => false

/-- A `PendingVerification` document.  Its unique `txHash` stands for the `_id` too. -/
structure PendingVerification where
  schoolId : String
  txHash : String
  studentId : Option String := none
  attempts : Nat := 0
  lastAttemptAt : Option Nat := none
  nextRetryAt : Nat
  status : VerificationStatus := .pending
  lastError : Option String := none
  resolvedAt : Option Nat := none
  deriving DecidableEq, Repr

abbrev VerificationQueue := Collection PendingVerification String PendingVerification.txHash

/-- `PERMANENT_ERROR_CODES` of the retry contract. -/
def permanentErrorCodes : List String :=
  ["TX_FAILED", "MISSING_MEMO", "INVALID_DESTINATION", "UNSUPPORTED_ASSET", "DUPLICATE_TX",
    "INVALID_TRANSACTION_HASH", "TRANSACTION_NOT_FOUND"]

/-- An error thrown while an item is handled; some have no `code`. -/
structure AttemptError where
  code : Option String
  message : String
  deriving DecidableEq, Repr

/-- `isPermanent` -/
def AttemptError.isPermanent (err : AttemptError) : Bool :=
  err.code.any fun code => permanentErrorCodes.contains code

def nextRetryDelay (now attempts : Nat) : Nat := now + min (2 ^ attempts * 60000) 3600000

/-- How handling an item ended. -/
inductive ItemOutcome
  | schoolMissing
  | invalid
  | resolved
  | failed (err : AttemptError)
  deriving DecidableEq, Repr

/-- The outcomes that come before and after the payment was recorded; an error may come from
either part. -/
def ItemOutcome.possible (recorded : Bool) : ItemOutcome → Bool
  | .resolved => recorded
  | .schoolMissing | .invalid => !recorded
  | .failed _ => true

/-- `RETRY_MAX_ATTEMPTS`. -/
structure RetryConfig where
  maxAttempts : Nat := 10

/-- The first update of an item of a batch. -/
def markProcessing (now : Nat) (doc : PendingVerification) : PendingVerification :=
  { doc with status := .processing, lastAttemptAt := some now, attempts := doc.attempts + 1 }

/-- The last update of an item: `item` is the one in the batch, `doc` the stored one. -/
def settleItem (cfg : RetryConfig) (now : Nat) (item : PendingVerification) (outcome : ItemOutcome)
    (doc : PendingVerification) : PendingVerification :=
  match outcome with
  | .schoolMissing => { doc with
      status := .deadLetter
      lastError := some ("School " ++ item.schoolId ++ " not found or inactive") }
  | .invalid => { doc with
      status := .deadLetter
      lastError := some "verifyTransaction returned null — transaction is permanently invalid" }
  | .resolved => { doc with status := .resolved, resolvedAt := some now, lastError := none }
  | .failed err =>
    let attempts := item.attempts + 1
    if err.isPermanent = true ∨ attempts ≥ cfg.maxAttempts then
      { doc with status := .deadLetter, lastError := some err.message }
    else
      -- network errors and unknown ones differ only in what is logged
      { doc with
        status := .pending
        lastError := some err.message
        nextRetryAt := nextRetryDelay now attempts }

theorem markProcessing_txHash (now : Nat) (doc : PendingVerification) :
    (markProcessing now doc).txHash = doc.txHash := rfl

theorem settleItem_txHash (cfg : RetryConfig) (now : Nat) (item : PendingVerification)
    (outcome : ItemOutcome) (doc : PendingVerification) :
    (settleItem cfg now item outcome doc).txHash = doc.txHash := by
  unfold settleItem
  split
  · rfl
  · rfl
  · rfl
  · dsimp only
    split
    · rfl
    · rfl

/-- Settling leaves no item in `processing`. -/
theorem settleItem_status (cfg : RetryConfig) (now : Nat) (item : PendingVerification)
    (outcome : ItemOutcome) (doc : PendingVerification) :
    (settleItem cfg now item outcome doc).status ≠ .processing := by
  unfold settleItem
  split
  · simp
  · simp
  · simp
  · dsimp only
    split
    · simp
    · simp

/-- What `queueForRetry` sets on an item that is there. -/
def requeued (now : Nat) (errorMessage : String) (doc : PendingVerification) :
    PendingVerification :=
  { doc with status := .pending, lastError := some errorMessage, nextRetryAt := now }

theorem requeued_txHash (now : Nat) (errorMessage : String) (doc : PendingVerification) :
    (requeued now errorMessage doc).txHash = doc.txHash := rfl

/-- Insert the item, or make the stored one pending; a hash another school queued is a
duplicate key. -/
def queueForRetry (now : Nat) (items : VerificationQueue) (txHash : String)
    (studentId : Option String) (errorMessage schoolId : String) : Option VerificationQueue :=
  match items.findOne fun doc => doc.txHash == txHash && doc.schoolId == schoolId with
  | some _ => some (items.modify txHash (requeued now errorMessage) (requeued_txHash now errorMessage))
  | none => items.insert
      { schoolId, txHash, studentId, nextRetryAt := now, lastError := some errorMessage }

/-- `redriveDeadLetter`, on one document. -/
def redriveDeadLetter (now : Nat) (doc : PendingVerification) : PendingVerification :=
  if doc.status = .deadLetter then
    { doc with status := .pending, attempts := 0, nextRetryAt := now, lastError := none }
  else doc

theorem redriveDeadLetter_txHash (now : Nat) (doc : PendingVerification) :
    (redriveDeadLetter now doc).txHash = doc.txHash := by
  unfold redriveDeadLetter
  split <;> rfl

/-- The pick-up filter of a batch. -/
def verificationDue (now : Nat) (doc : PendingVerification) : Bool :=
  doc.status = .pending ∧ doc.nextRetryAt ≤ now

/-! ## The system -/

/-- An item a replica has marked and not settled yet, and whether its payment was recorded. -/
structure Handling where
  item : PendingVerification
  recorded : Bool := false
  deriving DecidableEq, Repr

/-- The rest of a batch, and the item in hand. -/
structure Batch where
  due : List PendingVerification
  current : Option Handling := none
  deriving DecidableEq, Repr

/-- The queue, the hashes a payment exists for, and the batch each replica works on. -/
structure RetrySystem where
  clock : Nat
  items : VerificationQueue
  payments : List String
  replica : Nat → Option Batch

/-- `pay` is any creation of a payment outside the handling of an item, the `FAILED` audit
record after a dead letter included. -/
inductive RetryAction
  | tick (ms : Nat)
  | queue (txHash : String) (studentId : Option String) (errorMessage schoolId : String)
  | redrive (txHash : String)
  | pay (txHash : String)
  | find (replica : Nat) (reachable : Bool)
  | next (replica : Nat)
  | record (replica : Nat)
  | settle (replica : Nat) (outcome : ItemOutcome)
  | crash (replica : Nat)
  deriving DecidableEq, Repr

def RetrySystem.start : RetrySystem where
  clock := 0
  items := .empty
  payments := []
  replica := fun _ => none

/-- One step of the store or of a replica.  `_running` keeps a replica to one batch. -/
def retryStep (cfg : RetryConfig) (s : RetrySystem) : RetryAction → Option RetrySystem
  | .tick ms => some { s with clock := s.clock + ms }
  | .queue txHash studentId errorMessage schoolId =>
    (queueForRetry s.clock s.items txHash studentId errorMessage schoolId).map
      fun items => { s with items := items }
  | .redrive txHash => some { s with
      items := s.items.modify txHash (redriveDeadLetter s.clock) (redriveDeadLetter_txHash s.clock) }
  | .pay txHash => some { s with payments := txHash :: s.payments }
  | .find replica reachable =>
    if s.replica replica = none then
      let due := (s.items.docs.filter (verificationDue s.clock)).take 50
      if reachable = true ∧ due ≠ [] then
        some { s with replica := update s.replica replica (some { due := due }) }
      else some s
    else none
  | .next replica =>
    match s.replica replica with
    | some ⟨item :: due, none⟩ => some { s with
        items := s.items.modify item.txHash (markProcessing s.clock) (markProcessing_txHash s.clock)
        replica := update s.replica replica (some ⟨due, some { item := item }⟩) }
    | some ⟨[], none⟩ => some { s with replica := update s.replica replica none }
    | _ => none
  | .record replica =>
    match s.replica replica with
    | some ⟨due, some ⟨item, false⟩⟩ => some { s with
        payments := item.txHash :: s.payments
        replica := update s.replica replica (some ⟨due, some ⟨item, true⟩⟩) }
    | _ => none
  | .settle replica outcome =>
    match s.replica replica with
    | some ⟨due, some ⟨item, recorded⟩⟩ =>
      if outcome.possible recorded then
        some { s with
          items := s.items.modify item.txHash (settleItem cfg s.clock item outcome)
            (settleItem_txHash cfg s.clock item outcome)
          replica := update s.replica replica (some ⟨due, none⟩) }
      else none
    | _ => none
  | .crash replica => some { s with replica := update s.replica replica none }

/-! ## What each step did -/

section Inversion
variable {cfg : RetryConfig} {s t : RetrySystem} {replica : Nat}

/-- The queue after `queueForRetry`: one item was made pending, or one is new. -/
theorem queueForRetry_mem {now : Nat} {items items' : VerificationQueue} {txHash : String}
    {studentId : Option String} {errorMessage schoolId : String}
    (h : queueForRetry now items txHash studentId errorMessage schoolId = some items') :
    (∀ doc ∈ items.docs, ∃ doc' ∈ items'.docs, doc'.txHash = doc.txHash ∧
        (doc.txHash ≠ txHash → doc' = doc)) ∧
      ∀ doc' ∈ items'.docs, doc'.status = .pending ∧ doc'.txHash = txHash ∨
        doc' ∈ items.docs ∧ doc'.txHash ≠ txHash := by
  unfold queueForRetry at h
  split at h
  · obtain rfl := Option.some.inj h
    constructor
    · intro doc hdoc
      refine ⟨_, (items.mem_modify (requeued_txHash now errorMessage)).mpr ⟨doc, hdoc, rfl⟩, ?_,
        fun hne => if_neg hne⟩
      split
      · rfl
      · rfl
    · intro doc' hdoc'
      obtain ⟨doc, hdoc, rfl⟩ := (items.mem_modify (requeued_txHash now errorMessage)).mp hdoc'
      by_cases hid : doc.txHash = txHash
      · rw [if_pos hid]
        exact Or.inl ⟨rfl, hid⟩
      · rw [if_neg hid]
        exact Or.inr ⟨hdoc, hid⟩
  · have hfresh := items.insert_fresh h
    rw [items.insert_docs h]
    constructor
    · exact fun doc hdoc => ⟨doc, List.mem_append_left _ hdoc, rfl, fun _ => rfl⟩
    · intro doc' hdoc'
      rcases List.mem_append.mp hdoc' with hold | hnew
      · exact Or.inr ⟨hold, hfresh doc' hold⟩
      · obtain rfl := List.mem_singleton.mp hnew
        exact Or.inl ⟨rfl, rfl⟩

theorem queue_item_inv {txHash : String} {studentId : Option String}
    {errorMessage schoolId : String}
    (h : retryStep cfg s (.queue txHash studentId errorMessage schoolId) = some t) :
    ∃ items, queueForRetry s.clock s.items txHash studentId errorMessage schoolId = some items ∧
      t = { s with items := items } := by
  obtain ⟨items, hitems, rfl⟩ := Option.map_eq_some_iff.mp h
  exact ⟨items, hitems, rfl⟩

theorem find_inv {reachable : Bool} (h : retryStep cfg s (.find replica reachable) = some t) :
    s.replica replica = none ∧ (t = s ∨
      ∃ due, t = { s with replica := update s.replica replica (some { due := due }) }) := by
  simp only [retryStep] at h
  split at h
  · rename_i hidle
    split at h
    · exact ⟨hidle, Or.inr ⟨_, (Option.some.inj h).symm⟩⟩
    · exact ⟨hidle, Or.inl (Option.some.inj h).symm⟩
  · cases h

theorem next_inv (h : retryStep cfg s (.next replica) = some t) :
    (∃ item due, s.replica replica = some ⟨item :: due, none⟩ ∧
      t = { s with
        items := s.items.modify item.txHash (markProcessing s.clock) (markProcessing_txHash s.clock)
        replica := update s.replica replica (some ⟨due, some { item := item }⟩) }) ∨
    (s.replica replica = some ⟨[], none⟩ ∧
      t = { s with replica := update s.replica replica none }) := by
  simp only [retryStep] at h
  split at h
  · rename_i item due hbatch
    exact Or.inl ⟨item, due, hbatch, (Option.some.inj h).symm⟩
  · rename_i hbatch
    exact Or.inr ⟨hbatch, (Option.some.inj h).symm⟩
  · cases h

theorem record_item_inv (h : retryStep cfg s (.record replica) = some t) :
    ∃ due item, s.replica replica = some ⟨due, some ⟨item, false⟩⟩ ∧
      t = { s with
        payments := item.txHash :: s.payments
        replica := update s.replica replica (some ⟨due, some ⟨item, true⟩⟩) } := by
  simp only [retryStep] at h
  split at h
  · rename_i due item hbatch
    exact ⟨due, item, hbatch, (Option.some.inj h).symm⟩
  · cases h

theorem settle_item_inv {outcome : ItemOutcome}
    (h : retryStep cfg s (.settle replica outcome) = some t) :
    ∃ due item recorded, s.replica replica = some ⟨due, some ⟨item, recorded⟩⟩ ∧
      t = { s with
        items := s.items.modify item.txHash (settleItem cfg s.clock item outcome)
          (settleItem_txHash cfg s.clock item outcome)
        replica := update s.replica replica (some ⟨due, none⟩) } := by
  simp only [retryStep] at h
  split at h
  · rename_i due item recorded hbatch
    split at h
    · exact ⟨due, item, recorded, hbatch, (Option.some.inj h).symm⟩
    · cases h
  · cases h

end Inversion

end StellarEduPay
