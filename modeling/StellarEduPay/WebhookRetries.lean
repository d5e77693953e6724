import Mathlib.Data.List.MinMax
import StellarEduPay.Collection
import StellarEduPay.Runs

/-! # Webhook deliveries and their retries

An event is posted to each endpoint of a school once when it fires; a delivery that
fails is stored and posted again by the retry workers, which may run in any number of
processes.  Each update of the store and each post is one step.  A worker works from the
document its claim returned and addresses its last update by `_id` alone, so that update
may land after the lease ran out; who claimed a delivery last, which the store does not
keep past the update, tells the two apart here.

Everything is generic in the payload `π`, which no step looks into.
-/
namespace StellarEduPay
open Runs Function

/-! ## Documents -/

inductive WebhookRetryStatus
  | pending
  | processing
  | succeeded
  | failed
  deriving DecidableEq, Repr

def WebhookRetryStatus.terminal : WebhookRetryStatus → Bool
  | .succeeded | .failed => true
  | .pending | .processing => false

/-- An entry of `errorLog`. -/
structure WebhookErrorEntry where
  attemptNumber : Nat
  error : String
  timestamp : Nat
  deriving DecidableEq, Repr

/-- A `WebhookRetry` document.  Its unique `deliveryId` stands for the `_id` too. -/
structure WebhookRetry (π : Type) where
  url : String
  event : String
  payload : π
  deliveryId : String
  endpointId : Option String
  sequence : Option Nat
  status : WebhookRetryStatus := .pending
  attemptCount : Nat := 0
  maxAttempts : Nat
  leasedAt : Option Nat := none
  leasedBy : Option String := none
  nextRetryAt : Nat
  lastAttemptAt : Option Nat := none
  succeededAt : Option Nat := none
  lastError : Option String := none
  errorLog : List WebhookErrorEntry := []
  deriving DecidableEq, Repr

abbrev WebhookRetryQueue (π : Type) := Collection (WebhookRetry π) String WebhookRetry.deliveryId

/-- The `enum` of `WebhookRetry.event`. -/
def webhookRetryEvents : List String :=
  ["payment.confirmed", "payment.pending", "payment.failed", "payment.suspicious",
    "payment.refunded"]

/-- The constants of the service, and the `WORKER_ID` of each worker's process. -/
structure WebhookConfig where
  leaseTimeoutMs : Nat := 30000
  maxAttempts : Nat := 3
  workerId : Nat → String

def getBackoffDelay (attemptNumber : Nat) : Nat :=
  [60000, 300000, 900000].getD (min attemptNumber 2) 900000

/-! ## One post -/

/-- The JSON body; a missing `sequence` is left out of it. -/
structure WebhookBody (π : Type) where
  event : String
  timestamp : Nat
  apiVersion : String
  data : π
  sequence : Option Nat
  deriving DecidableEq, Repr

def buildEventBody {π : Type} (event : String) (timestamp : Nat) (data : π)
    (sequence : Option Nat) : WebhookBody π where
  event := event
  timestamp := timestamp
  apiVersion := "2026-10-01"
  data := data
  sequence := sequence

/-- How a call of `_sendToUrl` went: stopped by the check at send time, answered with a
2xx status, or anything else after the request was sent. -/
inductive WebhookAnswer
  | blocked
  | accepted
  | rejected (error : String)
  deriving DecidableEq, Repr

/-- The `error` of the result. -/
def WebhookAnswer.error : WebhookAnswer → Option String
  | .blocked => some "SSRF_BLOCKED"
  | .accepted => none
  | .rejected error => some error

/-- A request that left for the receiver.  `worker` is missing where the event was fired. -/
structure WebhookPost (π : Type) where
  worker : Option Nat
  url : String
  endpointId : Option String
  deliveryId : String
  attemptCount : Nat
  body : WebhookBody π
  deriving DecidableEq, Repr

/-- What `_sendToUrl` adds to the requests that left. -/
def sendToUrl {π : Type} (post : WebhookPost π) : WebhookAnswer → List (WebhookPost π)
  | .blocked => []
  | .accepted | .rejected _ => [post]

theorem mem_sendToUrl {π : Type} {post post' : WebhookPost π} {answer : WebhookAnswer}
    (h : post' ∈ sendToUrl post answer) : post' = post := by
  cases answer with
  | blocked => cases h
  | accepted => exact List.mem_singleton.mp h
  | rejected error => exact List.mem_singleton.mp h

theorem length_sendToUrl {π : Type} (post : WebhookPost π) (answer : WebhookAnswer) :
    (sendToUrl post answer).length ≤ 1 := by
  cases answer <;> simp [sendToUrl]

/-! ## Recovery and claims -/

section Documents
variable {π : Type}

/-- `recoverStuckLeases`, on one document. -/
def recoverStuckLease (cfg : WebhookConfig) (now : Nat) (retry : WebhookRetry π) : WebhookRetry π :=
  if retry.status = .processing ∧ ∃ since ∈ retry.leasedAt, since < now - cfg.leaseTimeoutMs then
    { retry with status := .pending, leasedAt := none, leasedBy := none }
  else retry

theorem recoverStuckLease_deliveryId (cfg : WebhookConfig) (now : Nat) (retry : WebhookRetry π) :
    (recoverStuckLease cfg now retry).deliveryId = retry.deliveryId := by
  unfold recoverStuckLease
  split <;> rfl

def retryDue (now : Nat) (retry : WebhookRetry π) : Bool :=
  retry.status = .pending ∧ retry.nextRetryAt ≤ now

/-- The oldest-due pending retry. -/
def nextRetry (now : Nat) (retries : WebhookRetryQueue π) : Option (WebhookRetry π) :=
  (retries.docs.filter (retryDue now)).argmin (·.nextRetryAt)

theorem nextRetry_some {now : Nat} {retries : WebhookRetryQueue π} {retry : WebhookRetry π}
    (h : nextRetry now retries = some retry) :
    retry ∈ retries.docs ∧ retry.status = .pending := by
  have hmem := List.argmin_mem (Option.mem_def.mpr h)
  rw [List.mem_filter] at hmem
  have hdue : retry.status = .pending ∧ retry.nextRetryAt ≤ now := by
    simpa [retryDue] using hmem.2
  exact ⟨hmem.1, hdue.1⟩

def leaseRetry (cfg : WebhookConfig) (worker clock : Nat) (retry : WebhookRetry π) :
    WebhookRetry π :=
  { retry with
    status := .processing
    leasedAt := some clock
    leasedBy := some (cfg.workerId worker) }

theorem leaseRetry_deliveryId (cfg : WebhookConfig) (worker clock : Nat) (retry : WebhookRetry π) :
    (leaseRetry cfg worker clock retry).deliveryId = retry.deliveryId := rfl

/-! ## The updates of `retryWebhook`

`claimed` is the document the worker works from, `retry` the one the update finds.
-/

/-- The URL no longer passes validation. -/
def blockRetry (clock : Nat) (retry : WebhookRetry π) : WebhookRetry π :=
  { retry with
    status := .failed
    lastError := some "Invalid or disallowed webhook URL"
    lastAttemptAt := some clock
    leasedAt := none
    leasedBy := none }

theorem blockRetry_deliveryId (clock : Nat) (retry : WebhookRetry π) :
    (blockRetry clock retry).deliveryId = retry.deliveryId := rfl

/-- The update after a post. -/
def settleRetry (clock : Nat) (claimed : WebhookRetry π) (answer : WebhookAnswer)
    (retry : WebhookRetry π) : WebhookRetry π :=
  let attemptNumber := claimed.attemptCount + 1
  match answer.error with
  | none =>
    { retry with
      status := .succeeded
      succeededAt := some clock
      lastAttemptAt := some clock
      leasedAt := none
      leasedBy := none }
  | some error =>
    let errorLog := retry.errorLog ++ [⟨attemptNumber, error, clock⟩]
    if attemptNumber < claimed.maxAttempts then
      { retry with
        status := .pending
        attemptCount := attemptNumber
        nextRetryAt := clock + getBackoffDelay attemptNumber
        lastError := some error
        lastAttemptAt := some clock
        leasedAt := none
        leasedBy := none
        errorLog := errorLog }
    else
      { retry with
        status := .failed
        attemptCount := attemptNumber
        lastError := some error
        lastAttemptAt := some clock
        leasedAt := none
        leasedBy := none
        errorLog := errorLog }

/-- The three outcomes of the last update: delivered, rescheduled, or out of attempts. -/
theorem settleRetry_cases (clock : Nat) (claimed : WebhookRetry π) (answer : WebhookAnswer)
    (retry : WebhookRetry π) :
    (answer.error = none ∧ (settleRetry clock claimed answer retry).status = .succeeded ∧
        (settleRetry clock claimed answer retry).attemptCount = retry.attemptCount) ∨
      (answer.error ≠ none ∧
        (settleRetry clock claimed answer retry).attemptCount = claimed.attemptCount + 1 ∧
        ((settleRetry clock claimed answer retry).status = .pending ∧
            claimed.attemptCount + 1 < claimed.maxAttempts ∨
          (settleRetry clock claimed answer retry).status = .failed ∧
            claimed.maxAttempts ≤ claimed.attemptCount + 1)) := by
  cases herror : answer.error with
  | none => exact Or.inl ⟨rfl, by simp [settleRetry, herror], by simp [settleRetry, herror]⟩
  | some error =>
    refine Or.inr ⟨by simp, ?_⟩
    by_cases hmore : claimed.attemptCount + 1 < claimed.maxAttempts
    · exact ⟨by simp [settleRetry, herror, hmore],
        Or.inl ⟨by simp [settleRetry, herror, hmore], hmore⟩⟩
    · exact ⟨by simp [settleRetry, herror, hmore],
        Or.inr ⟨by simp [settleRetry, herror, hmore], by omega⟩⟩

/-- What the last update keeps. -/
theorem settleRetry_kept (clock : Nat) (claimed : WebhookRetry π) (answer : WebhookAnswer)
    (retry : WebhookRetry π) :
    (settleRetry clock claimed answer retry).deliveryId = retry.deliveryId ∧
      (settleRetry clock claimed answer retry).maxAttempts = retry.maxAttempts := by
  unfold settleRetry
  dsimp only
  split
  · exact ⟨rfl, rfl⟩
  split
  · exact ⟨rfl, rfl⟩
  · exact ⟨rfl, rfl⟩

theorem settleRetry_deliveryId (clock : Nat) (claimed : WebhookRetry π) (answer : WebhookAnswer)
    (retry : WebhookRetry π) :
    (settleRetry clock claimed answer retry).deliveryId = retry.deliveryId :=
  (settleRetry_kept clock claimed answer retry).1

end Documents

/-! ## The system -/

/-- The local variables of `retryWebhook`: the claimed document, and the answer once it was
posted. -/
structure WebhookJob (π : Type) where
  retry : WebhookRetry π
  answer : Option WebhookAnswer := none
  deriving DecidableEq, Repr

/-- The store (the endpoints' `eventSequence` counters and the retries), the retry each worker
is in, who claimed each delivery last, and the requests that left, most recent first. -/
structure WebhookSystem (π : Type) where
  clock : Nat
  eventSequence : String → Option Nat
  retries : WebhookRetryQueue π
  worker : Nat → Option (WebhookJob π)
  claimant : String → Option Nat
  posts : List (WebhookPost π)

/-- What a failed delivery hands to `queueWebhookRetry`. -/
structure WebhookQueueRequest (π : Type) where
  url : String
  event : String
  payload : π
  error : String
  deliveryId : String
  endpointId : Option String
  sequence : Option Nat
  deriving DecidableEq, Repr

inductive WebhookAction (π : Type)
  | tick (ms : Nat)
  | queue (request : WebhookQueueRequest π)
  | recover (deliveryId : String) (now : Nat)
  | claim (worker now : Nat)
  | block (worker : Nat)
  | send (worker : Nat) (answer : WebhookAnswer)
  | finish (worker : Nat)
  | crash (worker : Nat)
  deriving DecidableEq, Repr

section System
variable {π : Type}

def WebhookSystem.start (eventSequence : String → Option Nat) : WebhookSystem π where
  clock := 0
  eventSequence := eventSequence
  retries := .empty
  worker := fun _ => none
  claimant := fun _ => none
  posts := []

/-- The document `queueWebhookRetry` creates. -/
def WebhookQueueRequest.retry (cfg : WebhookConfig) (clock : Nat) (request : WebhookQueueRequest π) :
    WebhookRetry π where
  url := request.url
  event := request.event
  payload := request.payload
  deliveryId := request.deliveryId
  endpointId := request.endpointId
  sequence := request.sequence
  maxAttempts := cfg.maxAttempts
  nextRetryAt := clock + getBackoffDelay 0
  lastError := some request.error
  errorLog := [⟨0, request.error, clock⟩]

/-- `create` fails for an event outside the enumeration, for a `maxAttempts` below its
minimum and for a `deliveryId` that is taken. -/
def queueWebhookRetry (cfg : WebhookConfig) (s : WebhookSystem π) (request : WebhookQueueRequest π) :
    Option (WebhookSystem π) :=
  if request.event ∈ webhookRetryEvents ∧ 1 ≤ cfg.maxAttempts then
    (s.retries.insert (request.retry cfg s.clock)).map fun retries => { s with retries := retries }
  else none

/-- The request `retryWebhook` sends: the stored payload goes out as it is. -/
def WebhookRetry.post (worker clock : Nat) (retry : WebhookRetry π) : WebhookPost π where
  worker := some worker
  url := retry.url
  endpointId := retry.endpointId
  deliveryId := retry.deliveryId
  attemptCount := retry.attemptCount + 1
  body := buildEventBody retry.event (clock / 1000) retry.payload retry.sequence

/-- One step of the store or of a worker.  Within `retryWebhook` the check of the URL comes
first (`block` where it fails), then the post, then the update. -/
def webhookStep (cfg : WebhookConfig) (s : WebhookSystem π) :
    WebhookAction π → Option (WebhookSystem π)
  | .tick ms => some { s with clock := s.clock + ms }
  | .queue request => queueWebhookRetry cfg s request
  | .recover deliveryId now =>
    if now ≤ s.clock then
      some { s with
        retries := s.retries.modify deliveryId (recoverStuckLease cfg now)
          (recoverStuckLease_deliveryId cfg now) }
    else none
  | .claim worker now =>
    if s.worker worker = none ∧ now ≤ s.clock then
      (nextRetry now s.retries).map fun retry =>
        { s with
          retries := s.retries.modify retry.deliveryId (leaseRetry cfg worker s.clock)
            (leaseRetry_deliveryId cfg worker s.clock)
          worker := update s.worker worker (some { retry := leaseRetry cfg worker s.clock retry })
          claimant := update s.claimant retry.deliveryId (some worker) }
    else none
  | .block worker =>
    match s.worker worker with
    | some ⟨retry, none⟩ => some { s with
        retries := s.retries.modify retry.deliveryId (blockRetry s.clock)
          (blockRetry_deliveryId s.clock)
        worker := update s.worker worker none }
    | _ => none
  | .send worker answer =>
    match s.worker worker with
    | some ⟨retry, none⟩ => some { s with
        worker := update s.worker worker (some ⟨retry, some answer⟩)
        posts := sendToUrl (retry.post worker s.clock) answer ++ s.posts }
    | _ => none
  | .finish worker =>
    match s.worker worker with
    | some ⟨retry, some answer⟩ => some { s with
        retries := s.retries.modify retry.deliveryId (settleRetry s.clock retry answer)
          (settleRetry_deliveryId s.clock retry answer)
        worker := update s.worker worker none }
    | _ => none
  | .crash worker => some { s with worker := update s.worker worker none }

/-! ## What each step did -/

section Inversion
variable {cfg : WebhookConfig} {s t : WebhookSystem π} {worker now : Nat} {deliveryId : String}
  {request : WebhookQueueRequest π}

theorem queue_inv (h : webhookStep cfg s (.queue request) = some t) :
    1 ≤ cfg.maxAttempts ∧ ∃ retries, s.retries.insert (request.retry cfg s.clock) = some retries ∧
      t = { s with retries := retries } := by
  simp only [webhookStep, queueWebhookRetry] at h
  split at h
  · rename_i hvalid
    obtain ⟨retries, hins, rfl⟩ := Option.map_eq_some_iff.mp h
    exact ⟨hvalid.2, retries, hins, rfl⟩
  · cases h

theorem recover_lease_inv (h : webhookStep cfg s (.recover deliveryId now) = some t) :
    t = { s with
      retries := s.retries.modify deliveryId (recoverStuckLease cfg now)
        (recoverStuckLease_deliveryId cfg now) } := by
  simp only [webhookStep] at h
  split at h
  · exact (Option.some.inj h).symm
  · cases h

theorem claim_retry_inv (h : webhookStep cfg s (.claim worker now) = some t) :
    s.worker worker = none ∧ ∃ retry ∈ s.retries.docs, retry.status = .pending ∧
      t = { s with
        retries := s.retries.modify retry.deliveryId (leaseRetry cfg worker s.clock)
          (leaseRetry_deliveryId cfg worker s.clock)
        worker := update s.worker worker (some { retry := leaseRetry cfg worker s.clock retry })
        claimant := update s.claimant retry.deliveryId (some worker) } := by
  simp only [webhookStep] at h
  split at h
  · rename_i hidle
    obtain ⟨retry, hnext, rfl⟩ := Option.map_eq_some_iff.mp h
    obtain ⟨hmem, hpending⟩ := nextRetry_some hnext
    exact ⟨hidle.1, retry, hmem, hpending, rfl⟩
  · cases h

theorem block_inv (h : webhookStep cfg s (.block worker) = some t) :
    ∃ retry, s.worker worker = some ⟨retry, none⟩ ∧
      t = { s with
        retries := s.retries.modify retry.deliveryId (blockRetry s.clock)
          (blockRetry_deliveryId s.clock)
        worker := update s.worker worker none } := by
  simp only [webhookStep] at h
  split at h
  · rename_i retry hjob
    exact ⟨retry, hjob, (Option.some.inj h).symm⟩
  · cases h

theorem send_inv {answer : WebhookAnswer} (h : webhookStep cfg s (.send worker answer) = some t) :
    ∃ retry, s.worker worker = some ⟨retry, none⟩ ∧
      t = { s with
        worker := update s.worker worker (some ⟨retry, some answer⟩)
        posts := sendToUrl (retry.post worker s.clock) answer ++ s.posts } := by
  simp only [webhookStep] at h
  split at h
  · rename_i retry hjob
    exact ⟨retry, hjob, (Option.some.inj h).symm⟩
  · cases h

theorem finish_retry_inv (h : webhookStep cfg s (.finish worker) = some t) :
    ∃ retry answer, s.worker worker = some ⟨retry, some answer⟩ ∧
      t = { s with
        retries := s.retries.modify retry.deliveryId (settleRetry s.clock retry answer)
          (settleRetry_deliveryId s.clock retry answer)
        worker := update s.worker worker none } := by
  simp only [webhookStep] at h
  split at h
  · rename_i retry answer hjob
    exact ⟨retry, answer, hjob, (Option.some.inj h).symm⟩
  · cases h

end Inversion
end System

end StellarEduPay
